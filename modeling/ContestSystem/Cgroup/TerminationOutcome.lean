import Mathlib.Data.Fintype.EquivFin
import ContestSystem.Cgroup.TerminationSafety
import ContestSystem.Lib.Reachability

/-!
# How terminate ends

`Placed` says what the next call tells about the freezer, so that the group is
thawed once `terminate` has ended in one way or the other. No state on the way
is a dead end. `Emptied` says what the listings of the wait have found, so that
the group is empty when `terminate` returns and stays so.
-/

namespace ContestSystem.Cgroup.Termination

open ContestSystem.Lib.Run

set_option autoImplicit false

/-- The freezer is on between the writes, and a loop that goes on has something left. -/
def Placed (target : Target) (state : State) : Prop :=
  match state.control with
  | .readFrozen => state.processes.freezing = true
  | .checkFrozen => state.processes.freezing = true
  | .listing left _ => left ≠ ∅
  | .killing left _ => left ≠ ∅
  | .readThawed _ => state.processes.freezing = false
  | .waiting _ left _ => state.processes.freezing = false ∧ left ≠ ∅ ∧ target.members ≠ ∅
  | .returned _ => state.processes.freezing = false
  | .thrown _ => state.processes.freezing = false
  | .writeFrozen | .writeThawed _ | .crashed => True

section Placed

variable {target : Target} {state next : State} {processes : Processes}

theorem placed_caught {error : Thrown}
    (freezing : error = .system EBUSY → processes.freezing = true) :
    Placed target { control := caught error, processes := processes } := by
  unfold caught
  by_cases busy : error = .system EBUSY
  · rw [if_pos busy]
    exact freezing busy
  · rw [if_neg busy]
    trivial

theorem placed_kill_from {left : Finset Pid} {count : Nat} :
    Placed target { control := killFrom left count, processes := processes } := by
  unfold killFrom
  split
  next => trivial
  next some => exact some

theorem placed_list_from {left : Finset Nat} {found : Finset Pid} :
    Placed target { control := listFrom left found, processes := processes } := by
  unfold listFrom
  split
  next => exact placed_kill_from
  next some => exact some

theorem placed_wait_from {count : Nat} {left : Finset Nat} {found : Finset Pid}
    (thawed : processes.freezing = false) (members : found ≠ ∅ ∨ left ≠ ∅ → target.members ≠ ∅) :
    Placed target { control := waitFrom target count left found, processes := processes } := by
  unfold waitFrom
  split
  next some => exact ⟨thawed, some, members (.inr some)⟩
  next =>
      split
      next => exact thawed
      next some => exact ⟨thawed, members (.inl some), members (.inl some)⟩

theorem placed_thawed {result : Except Thrown Nat} (thawed_ : processes.freezing = false) :
    Placed target { control := thawed target result, processes := processes } := by
  cases result with
  | ok count => exact placed_wait_from thawed_ fun some => by simpa using some
  | error error => exact thawed_

theorem write_placed {answer : Except Thrown Unit} (written : write state answer = some next) :
    Placed target next := by
  unfold write at written
  split at written
  next =>
      cases written
      rfl
  next error _ =>
      cases written
      apply placed_caught
      intro busy
      simp [Processes.setFreezing, busy]
  next =>
      cases written
      rfl
  next =>
      cases written
      trivial
  next => cases written

/-- The state is read as THAWED only where it is, so the second loop is left at once. -/
theorem read_placed {answer : Except Thrown FreezerState} (placed : Placed target state)
    (read_ : read target state answer = some next) : Placed target next := by
  unfold read at read_
  split at read_
  next value =>
      split at read_
      next reads =>
          split at read_
          next at_ =>
              cases read_
              simp only [Placed, at_] at placed
              by_cases frozen : value = .frozen
              · rw [if_pos frozen]
                exact placed
              · rw [if_neg frozen]
                trivial
          next at_ =>
              cases read_
              by_cases frozen : value = .frozen
              · rw [if_pos frozen]
                exact placed_list_from
              · rw [if_neg frozen]
                trivial
          next result at_ =>
              cases read_
              simp only [Placed, at_] at placed
              by_cases isThawed : value = .thawed
              · rw [if_pos isThawed]
                exact placed_thawed placed
              · rw [if_neg isThawed]
                trivial
          next => cases read_
      next => cases read_
  next error =>
      split at read_
      next at_ =>
          cases read_
          simp only [Placed, at_] at placed
          exact placed_caught fun _ => placed
      next =>
          cases read_
          trivial
      next =>
          cases read_
          trivial
      next => cases read_

theorem tasks_placed {member : Nat} {answer : Except Thrown Unit} (placed : Placed target state)
    (listed : tasks target state member answer = some next) : Placed target next := by
  unfold tasks at listed
  split at listed
  next left found at_ =>
      split at listed
      next =>
          cases listed
          exact placed_list_from
      next => cases listed
  next left found error at_ =>
      split at listed
      next =>
          cases listed
          trivial
      next => cases listed
  next count left found at_ =>
      simp only [Placed, at_] at placed
      split at listed
      next =>
          cases listed
          exact placed_wait_from placed.1 fun _ => placed.2.2
      next => cases listed
  next at_ =>
      simp only [Placed, at_] at placed
      split at listed
      next =>
          cases listed
          exact placed.1
      next => cases listed
  next => cases listed

theorem kill_placed {pid : Pid} {answer : Except Thrown Unit}
    (killed : kill state pid answer = some next) : Placed target next := by
  unfold kill at killed
  split at killed
  next =>
      split at killed
      next =>
          cases killed
          exact placed_kill_from
      next => cases killed
  next =>
      split at killed
      next =>
          cases killed
          trivial
      next => cases killed
  next => cases killed

theorem placed_kept {other : Processes} (placed : Placed target state)
    (same : other.freezing = state.processes.freezing) :
    Placed target { state with processes := other } := by
  unfold Placed at placed ⊢
  rw [same]
  exact placed

theorem step_placed {action : Action} (placed : Placed target state)
    (stepped : step target state action = some next) : Placed target next := by
  cases action with
  | write answer => exact write_placed stepped
  | read answer => exact read_placed placed stepped
  | tasks member answer => exact tasks_placed placed stepped
  | kill pid answer => exact kill_placed stepped
  | fork | exit | freeze | wake =>
      simp only [step] at stepped
      split at stepped
      next =>
          cases stepped
          exact placed_kept placed rfl
      next => cases stepped

theorem run_placed {actions : List Action}
    (executed : run (step target) (start processes) actions = some state) :
    Placed target state := by
  have initial : Placed target (start processes) := trivial
  exact run_invariant (Placed target) (fun _ _ _ placed stepped => step_placed placed stepped)
    initial executed

end Placed

def Ended (state : State) : Prop :=
  (∃ count, state.control = .returned count) ∨ ∃ error, state.control = .thrown error

section Progress

variable {target : Target} {control : Control} {processes : Processes}

theorem all_exit (freezing : processes.freezing = false) :
    CanReach (step target) (fun state => state.control = control ∧
        state.processes.freezing = false ∧ state.processes.alive = ∅)
      { control := control, processes := processes } := by
  apply can_reach_of_measure
    (fun state => state.control = control ∧ state.processes.freezing = false)
    (fun state => state.processes.alive.card +
      (state.processes.alive ∩ state.processes.frozen).card) _ ⟨rfl, freezing⟩
  intro state ⟨at_, off⟩
  by_cases gone : state.processes.alive = ∅
  · exact .inl ⟨at_, off, gone⟩
  right
  obtain ⟨pid, living⟩ := Finset.nonempty_iff_ne_empty.mpr gone
  by_cases asleep : pid ∈ state.processes.frozen
  · refine ⟨.wake pid, { state with processes := state.processes.wake pid }, ?_, ⟨at_, off⟩, ?_⟩
    · simp [step, off]
    · have fewer : (state.processes.alive ∩ state.processes.frozen.erase pid).card <
          (state.processes.alive ∩ state.processes.frozen).card := by
        rw [Finset.inter_erase]
        exact Finset.card_erase_lt_of_mem (Finset.mem_inter.mpr ⟨living, asleep⟩)
      exact Nat.add_lt_add_left fewer _
  · refine ⟨.exit pid, { state with processes := state.processes.exit pid }, ?_, ⟨at_, off⟩, ?_⟩
    · simp [step, living, asleep]
    · have fewer := Finset.card_erase_lt_of_mem living
      have rest : (state.processes.alive.erase pid ∩ state.processes.frozen).card ≤
          (state.processes.alive ∩ state.processes.frozen).card :=
        Finset.card_le_card (Finset.inter_subset_inter_right (Finset.erase_subset _ _))
      exact Nat.add_lt_add_of_lt_of_le fewer rest

theorem all_freeze (freezing : processes.freezing = true) {left : Finset Pid}
    (tasks : left ⊆ processes.tasks target.freezer) :
    CanReach (step target)
      (fun state => state = { control := control,
                              processes := { processes with frozen := left ∪ processes.frozen } })
      { control := control, processes := processes } := by
  induction left using Finset.induction_on generalizing processes with
  | empty => exact can_reach_here (by rw [Finset.empty_union])
  | insert pid rest _ ih =>
      have task := tasks (Finset.mem_insert_self pid rest)
      have others : rest ⊆ processes.tasks target.freezer :=
        (Finset.subset_insert pid rest).trans tasks
      have stepped : step target { control := control, processes := processes } (.freeze pid) =
          some { control := control, processes := processes.freeze pid } := by
        simp [step, freezing, task]
      apply can_reach_step stepped
      rw [Finset.insert_union, ← Finset.union_insert]
      have stillFreezing : (processes.freeze pid).freezing = true := freezing
      exact ih stillFreezing others

def Processes.freezeAll (processes : Processes) (freezer : Nat) : Processes :=
  { processes with frozen := processes.tasks freezer ∪ processes.frozen }

theorem freeze_all_reads (freezing : processes.freezing = true) (freezer : Nat) :
    (processes.freezeAll freezer).Reads freezer .frozen :=
  ⟨freezing, Finset.subset_union_left⟩

theorem check_reads (reads : processes.Reads target.freezer .frozen) :
    step target { control := .checkFrozen, processes := processes } (.read (.ok .frozen)) =
      some { control := listFrom target.members ∅, processes := processes } := by
  simp only [step, read]
  rw [if_pos reads]
  rfl

theorem set_state_reads (reads : processes.Reads target.freezer .frozen) :
    step target { control := .readFrozen, processes := processes } (.read (.ok .frozen)) =
      some { control := .checkFrozen, processes := processes } := by
  simp only [step, read]
  rw [if_pos reads]
  rfl

theorem all_listed {left : Finset Nat} {found : Finset Pid} :
    CanReach (step target)
      (fun state => state = { control := killFrom (found ∪ left.biUnion processes.tasks) 0,
                              processes := processes })
      { control := listFrom left found, processes := processes } := by
  induction left using Finset.induction_on generalizing found with
  | empty => exact can_reach_here (by rw [Finset.biUnion_empty, Finset.union_empty]; rfl)
  | insert member rest fresh ih =>
      rw [listFrom, if_neg (Finset.insert_ne_empty member rest)]
      have stepped : step target
          { control := .listing (insert member rest) found, processes := processes }
          (.tasks member (.ok ())) =
            some { control := listFrom rest (found ∪ processes.tasks member),
                   processes := processes } := by
        simp [step, tasks, fresh]
      apply can_reach_step stepped
      rw [Finset.biUnion_insert, ← Finset.union_assoc]
      exact ih

theorem rest_listed {count : Nat} {left : Finset Nat} {found : Finset Pid}
    (gone : processes.alive = ∅) (some_ : left ≠ ∅) :
    CanReach (step target)
      (fun state => state = { control := waitFrom target count ∅ found, processes := processes })
      { control := .waiting count left found, processes := processes } := by
  induction left using Finset.induction_on with
  | empty => exact absurd rfl some_
  | insert member rest fresh ih =>
      have empty : processes.tasks member = ∅ := by
        rw [Processes.tasks, gone, Finset.filter_empty]
      have stepped : step target
          { control := .waiting count (insert member rest) found, processes := processes }
          (.tasks member (.ok ())) =
            some { control := waitFrom target count rest found, processes := processes } := by
        simp [step, tasks, empty, fresh]
      apply can_reach_step stepped
      by_cases last : rest = ∅
      · rw [last]
        exact can_reach_here rfl
      · have waits : waitFrom target count rest found = .waiting count rest found := by
          rw [waitFrom, if_pos last]
        rw [waits]
        exact ih last

/-- With no process left, the listing under way and at most one more end the wait. -/
theorem waiting_ends {count : Nat} {left : Finset Nat} {found : Finset Pid}
    (placed : Placed target { control := .waiting count left found, processes := processes }) :
    CanReach (step target) Ended
      { control := .waiting count left found, processes := processes } := by
  obtain ⟨thawed, some_, members⟩ := placed
  apply can_reach_trans (all_exit thawed)
  rintro ⟨_, quiet⟩ ⟨rfl, _, gone⟩
  apply can_reach_trans (rest_listed gone some_)
  rintro _ rfl
  by_cases nothing : found = ∅
  · rw [nothing]
    exact can_reach_here (.inl ⟨count, by simp [waitFrom]⟩)
  · rw [waitFrom, if_neg (by simp), if_neg nothing]
    apply can_reach_trans (rest_listed gone members)
    rintro _ rfl
    exact can_reach_here (.inl ⟨count, by simp [waitFrom]⟩)

theorem thawed_ends {result : Except Thrown Nat} (off : processes.freezing = false) :
    CanReach (step target) Ended
      { control := .readThawed result, processes := processes } := by
  have stepped : step target { control := .readThawed result, processes := processes }
      (.read (.ok .thawed)) = some { control := thawed target result, processes := processes } := by
    simp [step, read, Processes.Reads, off]
  apply can_reach_step stepped
  cases result with
  | error error => exact can_reach_here (.inr ⟨error, rfl⟩)
  | ok count =>
      by_cases none : target.members = ∅
      · exact can_reach_here (.inl ⟨count, by simp [thawed, waitFrom, none]⟩)
      · have waits : thawed target (.ok count) = .waiting count target.members ∅ := by
          rw [thawed, waitFrom, if_pos none]
        rw [waits]
        exact waiting_ends ⟨off, none, none⟩

theorem thawing_ends (result : Except Thrown Nat) (processes : Processes) :
    CanReach (step target) Ended
      { control := .writeThawed result, processes := processes } := by
  have stepped : step target { control := .writeThawed result, processes := processes }
      (.write (.ok ())) =
        some { control := .readThawed result, processes := processes.setFreezing false } := rfl
  exact can_reach_step stepped (thawed_ends rfl)

theorem killing_ends {left : Finset Pid} {count : Nat} {processes : Processes} :
    CanReach (step target) Ended { control := killFrom left count, processes := processes } := by
  induction left using Finset.induction_on generalizing count processes with
  | empty => exact thawing_ends (.ok count) processes
  | insert pid rest fresh ih =>
      rw [killFrom, if_neg (Finset.insert_ne_empty pid rest)]
      by_cases living : pid ∈ processes.alive
      · have stepped : step target
            { control := .killing (insert pid rest) count, processes := processes }
            (.kill pid (.ok ())) =
              some { control := killFrom rest (count + 1), processes := processes.kill pid } := by
          simp [step, kill, living, fresh]
        exact can_reach_step stepped ih
      · have stepped : step target
            { control := .killing (insert pid rest) count, processes := processes }
            (.kill pid (.error (.system ESRCH))) =
              some { control := .writeThawed (.error (.system ESRCH)),
                     processes := processes } := by
          simp [step, kill, living]
        exact can_reach_step stepped (thawing_ends _ processes)

theorem listing_ends {left : Finset Nat} {found : Finset Pid} :
    CanReach (step target) Ended { control := listFrom left found, processes := processes } := by
  apply can_reach_trans all_listed
  rintro _ rfl
  exact killing_ends

theorem checking_ends (on : processes.freezing = true) :
    CanReach (step target) Ended { control := .checkFrozen, processes := processes } := by
  apply can_reach_trans (all_freeze on (Finset.Subset.refl _))
  rintro _ rfl
  exact can_reach_step (check_reads (freeze_all_reads on target.freezer)) listing_ends

theorem reading_ends (on : processes.freezing = true) :
    CanReach (step target) Ended { control := .readFrozen, processes := processes } := by
  apply can_reach_trans (all_freeze on (Finset.Subset.refl _))
  rintro _ rfl
  exact can_reach_step (set_state_reads (freeze_all_reads on target.freezer)) (checking_ends on)

theorem writing_ends (processes : Processes) :
    CanReach (step target) Ended { control := .writeFrozen, processes := processes } := by
  have stepped : step target { control := .writeFrozen, processes := processes }
      (.write (.ok ())) =
        some { control := .readFrozen, processes := processes.setFreezing true } := rfl
  exact can_reach_step stepped (reading_ends rfl)

theorem placed_ends {state : State} (placed : Placed target state)
    (survives : state.control ≠ .crashed) : CanReach (step target) Ended state := by
  obtain ⟨control, processes⟩ := state
  cases control with
  | writeFrozen => exact writing_ends processes
  | readFrozen => exact reading_ends placed
  | checkFrozen => exact checking_ends placed
  | listing left found =>
      have listing : listFrom left found = .listing left found := by
        rw [listFrom, if_neg placed]
      rw [← listing]
      exact listing_ends
  | killing left count =>
      have killing : killFrom left count = .killing left count := by
        rw [killFrom, if_neg placed]
      rw [← killing]
      exact killing_ends
  | writeThawed result => exact thawing_ends result processes
  | readThawed result => exact thawed_ends placed
  | waiting count left found => exact waiting_ends placed
  | returned count => exact can_reach_here (.inl ⟨count, rfl⟩)
  | thrown error => exact can_reach_here (.inr ⟨error, rfl⟩)
  | crashed => exact absurd rfl survives

end Progress

theorem thawed_of_ended {target : Target} {state : State} (placed : Placed target state)
    (ended : Ended state) : state.processes.freezing = false := by
  rcases ended with ⟨count, at_⟩ | ⟨error, at_⟩
  · simpa only [Placed, at_] using placed
  · simpa only [Placed, at_] using placed

/-- The group is not left frozen, whichever way `terminate` ends; and whatever has
happened it can still end, unless an exception has left the scope exit. -/
theorem terminate_ends_thawed (target : Target) (processes : Processes) (actions : List Action)
    (state : State) (executed : run (step target) (start processes) actions = some state) :
    (Ended state → state.processes.freezing = false) ∧
      (state.control ≠ .crashed → CanReach (step target) Ended state) :=
  ⟨thawed_of_ended (run_placed executed), placed_ends (run_placed executed)⟩

/-- The first write is refused for good, so that nothing is killed. -/
def refusedRun : List Action :=
  [.write (.error .other), .write (.ok ()), .read (.ok .thawed)]

theorem terminate_ends_thawed_refused :
    ∃ state, run (step (single 7)) (start (lone {7})) refusedRun = some state ∧
      state.control = .thrown .other ∧ state.processes.freezing = false :=
  ⟨_, rfl, rfl,
    (terminate_ends_thawed (single 7) (lone {7}) refusedRun _ rfl).1 (.inr ⟨.other, rfl⟩)⟩

/-- What the listings of `waitEmpty_` have found empty is empty. -/
def Emptied (target : Target) (state : State) : Prop :=
  match state.control with
  | .waiting _ left found => found = ∅ →
      ∀ member ∈ target.members, member ∉ left → state.processes.tasks member = ∅
  | .returned _ => ∀ member ∈ target.members, state.processes.tasks member = ∅
  | _ => True

section Emptied

variable {target : Target} {state next : State} {processes : Processes}

theorem emptied_wait_from {count : Nat} {left : Finset Nat} {found : Finset Pid}
    (empty : found = ∅ → ∀ member ∈ target.members, member ∉ left → processes.tasks member = ∅) :
    Emptied target { control := waitFrom target count left found, processes := processes } := by
  unfold waitFrom
  split
  next => exact empty
  next none =>
      have nothing : left = ∅ := not_not.mp none
      split
      next noneFound =>
          intro member isMember
          exact empty noneFound member isMember (nothing ▸ Finset.notMem_empty member)
      next => exact fun _ member isMember unlisted => absurd isMember unlisted

theorem emptied_kept {other : Processes} (emptied : Emptied target state)
    (stays : ∀ member, state.processes.tasks member = ∅ → other.tasks member = ∅) :
    Emptied target { state with processes := other } := by
  obtain ⟨control, processes⟩ := state
  cases control with
  | waiting count left found =>
      intro nothing member isMember unlisted
      exact stays member (emptied nothing member isMember unlisted)
  | returned count => exact fun member isMember => stays member (emptied member isMember)
  | writeFrozen | readFrozen | checkFrozen | listing | killing | writeThawed | readThawed
  | thrown | crashed => trivial

theorem emptied_caught {error : Thrown} :
    Emptied target { control := caught error, processes := processes } := by
  unfold caught
  split <;> trivial

theorem emptied_list_from {left : Finset Nat} {found : Finset Pid} :
    Emptied target { control := listFrom left found, processes := processes } := by
  unfold listFrom killFrom
  split
  · split <;> trivial
  · trivial

theorem emptied_thawed {result : Except Thrown Nat} :
    Emptied target { control := thawed target result, processes := processes } := by
  cases result with
  | ok count =>
      exact emptied_wait_from fun _ member isMember unlisted => absurd isMember unlisted
  | error error => trivial

theorem write_emptied {answer : Except Thrown Unit} (written : write state answer = some next) :
    Emptied target next := by
  unfold write at written
  split at written
  next =>
      cases written
      trivial
  next =>
      cases written
      exact emptied_caught
  next =>
      cases written
      trivial
  next =>
      cases written
      trivial
  next => cases written

theorem read_emptied {answer : Except Thrown FreezerState}
    (read_ : read target state answer = some next) : Emptied target next := by
  unfold read at read_
  split at read_
  next value =>
      split at read_
      next =>
          split at read_
          next =>
              cases read_
              split <;> trivial
          next =>
              cases read_
              split
              next => exact emptied_list_from
              next => trivial
          next =>
              cases read_
              split
              next => exact emptied_thawed
              next => trivial
          next => cases read_
      next => cases read_
  next error =>
      split at read_
      next =>
          cases read_
          exact emptied_caught
      next =>
          cases read_
          trivial
      next =>
          cases read_
          trivial
      next => cases read_

theorem tasks_emptied {member : Nat} {answer : Except Thrown Unit}
    (emptied : Emptied target state) (listed : tasks target state member answer = some next) :
    Emptied target next := by
  unfold tasks at listed
  split at listed
  next =>
      split at listed
      next =>
          cases listed
          exact emptied_list_from
      next => cases listed
  next =>
      split at listed
      next =>
          cases listed
          trivial
      next => cases listed
  next count left found at_ =>
      simp only [Emptied, at_] at emptied
      split at listed
      next =>
          cases listed
          apply emptied_wait_from
          intro nothing other isMember unlisted
          obtain ⟨before, now⟩ := Finset.union_eq_empty.mp nothing
          by_cases same : other = member
          · rw [same]
            exact now
          · have earlier : other ∉ left := fun inside =>
              unlisted (Finset.mem_erase.mpr ⟨same, inside⟩)
            exact emptied before other isMember earlier
      next => cases listed
  next =>
      split at listed
      next =>
          cases listed
          trivial
      next => cases listed
  next => cases listed

theorem kill_emptied {pid : Pid} {answer : Except Thrown Unit}
    (killed : kill state pid answer = some next) : Emptied target next := by
  unfold kill at killed
  split at killed
  next =>
      split at killed
      next =>
          cases killed
          unfold killFrom
          split <;> trivial
      next => cases killed
  next =>
      split at killed
      next =>
          cases killed
          trivial
      next => cases killed
  next => cases killed

theorem step_empty {action : Action} {member : Nat} (empty : state.processes.tasks member = ∅)
    (stepped : step target state action = some next) : next.processes.tasks member = ∅ := by
  have doomed : state.processes.tasks member ⊆ state.processes.killed := by
    rw [empty]
    exact Finset.empty_subset _
  exact Finset.subset_empty.mp (empty ▸ (move_doomed doomed (step_moves stepped)).1)

theorem run_empty {actions : List Action} {member : Nat}
    (empty : state.processes.tasks member = ∅)
    (executed : run (step target) state actions = some next) :
    next.processes.tasks member = ∅ :=
  run_invariant (fun reached => reached.processes.tasks member = ∅)
    (fun _ _ _ empty stepped => step_empty empty stepped) empty executed

theorem step_emptied {action : Action} (emptied : Emptied target state)
    (stepped : step target state action = some next) : Emptied target next := by
  have stays : ∀ member, state.processes.tasks member = ∅ → next.processes.tasks member = ∅ :=
    fun _ empty => step_empty empty stepped
  cases action with
  | write answer => exact write_emptied stepped
  | read answer => exact read_emptied stepped
  | tasks member answer => exact tasks_emptied emptied stepped
  | kill pid answer => exact kill_emptied stepped
  | fork | exit | freeze | wake =>
      simp only [step] at stepped
      split at stepped
      next =>
          cases stepped
          exact emptied_kept emptied stays
      next => cases stepped

theorem run_emptied {actions : List Action}
    (executed : run (step target) (start processes) actions = some state) :
    Emptied target state := by
  have initial : Emptied target (start processes) := trivial
  exact run_invariant (Emptied target) (fun _ _ _ emptied stepped => step_emptied emptied stepped)
    initial executed

end Emptied

/-- Although the last listing takes one member after another, the group is empty when
`terminate` has returned, and whatever runs then leaves it empty. -/
theorem terminate_returns_empty (target : Target) (processes : Processes) (actions : List Action)
    (state : State) (executed : run (step target) (start processes) actions = some state)
    (count : Nat) (returned : state.control = .returned count) (later : List Action)
    (final : State) (continued : run (step target) state later = some final) (member : Nat)
    (isMember : member ∈ target.members) : final.processes.tasks member = ∅ := by
  have emptied := run_emptied executed
  simp only [Emptied, returned] at emptied
  exact run_empty (emptied member isMember) continued

def emptyingRun : List Action :=
  [.write (.ok ()), .freeze 1, .read (.ok .frozen), .read (.ok .frozen), .tasks 3 (.ok ()),
    .tasks 7 (.ok ()), .kill 1 (.ok ()), .write (.ok ()), .read (.ok .thawed), .tasks 7 (.ok ()),
    .wake 1, .exit 1, .tasks 3 (.ok ()), .tasks 3 (.ok ()), .tasks 7 (.ok ())]

theorem terminate_returns_empty_both :
    ∃ state, run (step bothHierarchies) (start (lone {3, 7})) emptyingRun = some state ∧
      state.control = .returned 1 ∧ state.processes.tasks 3 = ∅ :=
  ⟨_, rfl, rfl, terminate_returns_empty bothHierarchies (lone {3, 7}) emptyingRun _ rfl 1 rfl [] _
    rfl 3 (by decide)⟩

section Uncontained

variable {target : Target} {processes : Processes}

theorem all_killed {left : Finset Pid} {count : Nat} (alive : left ⊆ processes.alive) :
    CanReach (step target)
      (fun state => state = { control := .writeThawed (.ok (count + left.card)),
                              processes := { processes with killed := left ∪ processes.killed } })
      { control := killFrom left count, processes := processes } := by
  induction left using Finset.induction_on generalizing count processes with
  | empty => exact can_reach_here (by rw [Finset.empty_union]; rfl)
  | insert pid rest fresh ih =>
      rw [killFrom, if_neg (Finset.insert_ne_empty pid rest)]
      have living := alive (Finset.mem_insert_self pid rest)
      have stepped : step target
          { control := .killing (insert pid rest) count, processes := processes }
          (.kill pid (.ok ())) =
            some { control := killFrom rest (count + 1), processes := processes.kill pid } := by
        simp [step, kill, living, fresh]
      apply can_reach_step stepped
      rw [Finset.card_insert_of_notMem fresh, Finset.insert_union, ← Finset.union_insert,
        Nat.add_comm rest.card 1, ← Nat.add_assoc]
      have stillAlive : rest ⊆ (processes.kill pid).alive :=
        (Finset.subset_insert pid rest).trans alive
      exact ih stillAlive

/-- A process has survived the kill loop. -/
def Missed (target : Target) (state : State) : Prop :=
  ∃ count, state.control.phase = .terminated count ∧ ∃ member ∈ target.members,
    ∃ pid ∈ state.processes.tasks member, state.processes.Runs pid

theorem fork_missed {member : Nat} {pid : Pid} {found : Finset Pid} (runs : processes.Runs pid)
    (isMember : member ∈ target.members) (sits : member ∈ processes.groups pid)
    (alive : found ⊆ processes.alive) :
    CanReach (step target) (Missed target)
      { control := killFrom found 0, processes := processes } := by
  obtain ⟨child, fresh⟩ := Infinite.exists_notMem_finset processes.alive
  have stepped : step target { control := killFrom found 0, processes := processes }
      (.fork pid child) =
        some { control := killFrom found 0, processes := processes.fork pid child } := by
    simp [step, runs, fresh]
  apply can_reach_step stepped
  apply can_reach_trans (all_killed (alive.trans (Finset.subset_insert child processes.alive)))
  rintro _ rfl
  refine can_reach_here ⟨_, rfl, member, isMember, child, ?_, ?_⟩
  · exact mem_tasks.mpr ⟨Finset.mem_insert_self _ _, by simpa [Processes.fork] using sits⟩
  · have unlisted : child ∉ found := fun inside => fresh (alive inside)
    exact ⟨Finset.mem_insert_self _ _, by simp [Processes.fork],
      by simp [Processes.fork, unlisted]⟩

theorem uncontained_missed (unharmed : processes.killed = ∅)
    (uncontained : ¬Contained target (start processes)) :
    CanReach (step target) (Missed target) (start processes) := by
  obtain ⟨member, isMember, outside⟩ : ∃ member ∈ target.members,
      ¬processes.tasks member ⊆ processes.tasks target.freezer := by
    simp only [Contained, not_forall, exists_prop] at uncontained
    exact uncontained
  obtain ⟨pid, task, notFreezer⟩ := Finset.not_subset.mp outside
  obtain ⟨living, sits⟩ := mem_tasks.mp task
  -- It is awake when the tasks of the freezer's member are frozen.
  let awake := (processes.setFreezing true).wake pid
  have notTask : pid ∉ (processes.setFreezing true).tasks target.freezer := notFreezer
  have written : step target (start processes) (.write (.ok ())) =
      some { control := .readFrozen, processes := processes.setFreezing true } := rfl
  have woken : step target { control := .readFrozen, processes := processes.setFreezing true }
      (.wake pid) = some { control := .readFrozen, processes := awake } := by
    simp only [step]
    rw [if_pos (.inr notTask)]
  apply can_reach_step written
  apply can_reach_step woken
  apply can_reach_trans (all_freeze rfl (Finset.Subset.refl _))
  rintro _ rfl
  have reads : (awake.freezeAll target.freezer).Reads target.freezer .frozen :=
    freeze_all_reads rfl target.freezer
  apply can_reach_step (set_state_reads reads)
  apply can_reach_step (check_reads reads)
  apply can_reach_trans all_listed
  rintro _ rfl
  have notFrozen : pid ∉ awake.tasks target.freezer ∪ awake.frozen := by
    refine Finset.notMem_union.mpr ⟨notFreezer, Finset.notMem_erase pid processes.frozen⟩
  have notKilled : pid ∉ processes.killed := by
    rw [unharmed]
    exact Finset.notMem_empty pid
  have runs : (awake.freezeAll target.freezer).Runs pid := ⟨living, notFrozen, notKilled⟩
  apply fork_missed runs isMember sits
  intro found inside
  rw [Finset.empty_union, Finset.mem_biUnion] at inside
  obtain ⟨_, _, here⟩ := inside
  exact (mem_tasks.mp here).1

end Uncontained

/-- `terminate` kills the whole group, whatever the processes do meanwhile, exactly
where all of them sit in the freezer's member at the start. -/
theorem terminate_kills_group_iff (target : Target) (processes : Processes)
    (unharmed : processes.killed = ∅) :
    (∀ actions state count, run (step target) (start processes) actions = some state →
      state.control.phase = .terminated count →
      ∀ member ∈ target.members, state.processes.tasks member ⊆ state.processes.killed) ↔
      Contained target (start processes) := by
  constructor
  · intro kills
    by_contra uncontained
    obtain ⟨actions, state, executed, count, terminated, member, isMember, pid, task, runs⟩ :=
      uncontained_missed unharmed uncontained
    exact runs.2.2 (kills actions state count executed terminated member isMember task)
  · intro contained actions state count executed terminated member isMember pid task
    exact (contained_run_covered contained executed member isMember pid task).killed count
      terminated

/-- Process 1 sits in the cpu group only. -/
theorem terminate_kills_group_iff_cpu :
    ¬∀ actions state count, run (step bothHierarchies) (start (lone {3})) actions = some state →
      state.control.phase = .terminated count →
      ∀ member ∈ bothHierarchies.members,
        state.processes.tasks member ⊆ state.processes.killed := by
  rw [terminate_kills_group_iff bothHierarchies (lone {3}) rfl]
  intro contained
  have inside := contained 3 (by decide) (show 1 ∈ (lone {3}).tasks 3 by decide)
  exact absurd inside (by decide)

end ContestSystem.Cgroup.Termination
