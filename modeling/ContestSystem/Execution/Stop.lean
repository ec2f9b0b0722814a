import ContestSystem.Execution.AsyncProcess
import ContestSystem.Lib.Throwing

/-!
# Stopping a process

`stop` asks with `poll` whether the child has terminated, sends it a signal if not
and then waits. Here one call of it is executed to its end for any answers of the
kernel. The test of what `::kill` returns negates the value before it compares it,
so that a child that may not be signalled is waited for as well. `stop_runs` takes the
steps that a running program interleaves to such a call.
-/

namespace ContestSystem.Execution.Stop

open ContestSystem.Lib.Throwing ContestSystem.Unistd

set_option autoImplicit false

/-- How a call ends that does not return; `blocked` is a `waitpid` without an end. -/
inductive Ending
  | systemError (what : String) (errno : Nat)
  | fileError (errno : Nat)
  | assertion
  | blocked
deriving DecidableEq

structure World where
  process : AsyncProcess
  journal : List ProcessEvent := []

structure Files where
  readOut : Except Nat Bytes
  removeOut : Except Nat Unit
  readErr : Except Nat Bytes
  removeErr : Except Nat Unit

structure Answers where
  poll : Except Nat (Option StatLoc)
  kill : Except Nat Unit
  wait : List (Except Nat StatLoc)
  files : Files

abbrev Call : Type → Type := EStateM Ending World

def valid : Call Unit := do
  if (← get).process.pid_ = 0 then throw .assertion

def record (event : ProcessEvent) : Call Unit :=
  modify fun world => { world with journal := event :: world.journal }

def assign (result : Result) : Call Unit :=
  modify fun world => { world with process := { world.process with result_ := some result } }

def update (change : Result → Result) : Call Unit := do
  match (← get).process.result_ with
  | some result => assign (change result)
  | none => throw .assertion

def file {Value : Type} : Except Nat Value → Call Value
  | .ok value => return value
  | .error errno => throw (.fileError errno)

def collectOutput (files : Files) : Call Unit := do
  let out ← file files.readOut
  update fun result => { result with out }
  file files.removeOut
  let err ← file files.readErr
  update fun result => { result with err }
  file files.removeErr

def poll (answer : Except Nat (Option StatLoc)) (files : Files) : Call Unit := do
  valid
  let process := (← get).process
  if process.result_.isNone then
    record (.waited process.pid_ true answer)
    match answer with
    | .ok none => return
    | .ok (some statLoc) =>
        assign (({} : Result).assign statLoc)
        collectOutput files
    | .error errno => throw (.systemError "waitpid" errno)

def waitOnce (files : Files) (answer : Except Nat StatLoc) : Call Unit := do
  record (.waited (← get).process.pid_ false (answer.map some))
  match answer with
  | .error errno => if errno ≠ EINTR then throw (.systemError "waitpid" errno)
  | .ok statLoc =>
      assign (({} : Result).assign statLoc)
      collectOutput files

def waitLoop (files : Files) : List (Except Nat StatLoc) → Call Unit
  | [] => do
      if (← get).process.result_.isNone then throw .blocked
  | answer :: answers => do
      if (← get).process.result_.isNone then
        waitOnce files answer
        waitLoop files answers

def wait (answers : List (Except Nat StatLoc)) (files : Files) : Call Unit := do
  valid
  waitLoop files answers

def killValue : Except Nat Unit → Int
  | .ok () => 0
  | .error _ => -1

def killErrno : Except Nat Unit → Nat
  | .ok () => 0
  | .error errno => errno

/-- `!` of C. -/
def lnot (value : Int) : Int := if value = 0 then 1 else 0

def stop (answers : Answers) : Call Unit := do
  valid
  poll answers.poll answers.files
  let process := (← get).process
  if process.result_.isNone then
    record (.killed process.pid_ answers.kill)
    if lnot (killValue answers.kill) < 0 then throw (.systemError "kill" (killErrno answers.kill))
    wait answers.wait answers.files

theorem bind_get {Value : Type} (next : World → Call Value) (world : World) :
    (get >>= next) world = next world world :=
  rfl

theorem kill_passes (answer : Except Nat Unit) : ¬lnot (killValue answer) < 0 := by
  unfold lnot
  split
  · decide
  · decide

def Reaps (pid : Pid) (event : ProcessEvent) : Prop :=
  ∃ noHang statLoc, event = .waited pid noHang (.ok (some statLoc))

def Signals (pid : Pid) (event : ProcessEvent) : Prop :=
  ∃ answer, event = .killed pid answer

def Reaped (world : World) : Prop :=
  ∃ event ∈ world.journal, Reaps world.process.pid_ event

/-- Nothing but calls of `waitpid` has been made, and a result comes from one of them. -/
structure Waits (before after : World) : Prop where
  pid : after.process.pid_ = before.process.pid_
  journal : ∃ events, after.journal = events ++ before.journal ∧
    ∀ event ∈ events, ∃ noHang answer, event = .waited before.process.pid_ noHang answer
  reaped : before.process.result_ = none → after.process.result_ ≠ none → Reaped after

/-- The journal and whether there is a result are left alone. -/
structure Collects (before after : World) : Prop where
  pid : after.process.pid_ = before.process.pid_
  journal : after.journal = before.journal
  result_ : after.process.result_ = none ↔ before.process.result_ = none

def NotKill (ending : Ending) : Prop := ∀ errno, ending ≠ .systemError "kill" errno

theorem not_kill_waitpid (errno : Nat) : NotKill (.systemError "waitpid" errno) := by
  intro other same
  injection same with what
  exact absurd what (by decide)

theorem collects_refl (world : World) : Collects world world :=
  ⟨rfl, rfl, Iff.rfl⟩

theorem collects_trans (first second third : World) (head : Collects first second)
    (tail : Collects second third) : Collects first third :=
  ⟨tail.pid.trans head.pid, tail.journal.trans head.journal, tail.result_.trans head.result_⟩

theorem waits_refl (world : World) : Waits world world :=
  ⟨rfl, ⟨[], rfl, nofun⟩, fun missing present => absurd missing present⟩

theorem waits_trans (first second third : World) (head : Waits first second)
    (tail : Waits second third) : Waits first third := by
  obtain ⟨earlier, headJournal, headEvents⟩ := head.journal
  obtain ⟨later, tailJournal, tailEvents⟩ := tail.journal
  refine ⟨tail.pid.trans head.pid, ⟨later ++ earlier, ?_, ?_⟩, ?_⟩
  · rw [tailJournal, headJournal, List.append_assoc]
  · intro event inside
    rcases List.mem_append.mp inside with recent | old
    · have made := tailEvents event recent
      rw [head.pid] at made
      exact made
    · exact headEvents event old
  · intro missing present
    by_cases middle : second.process.result_ = none
    · exact tail.reaped middle present
    · obtain ⟨event, inside, reaps⟩ := head.reaped missing middle
      refine ⟨event, ?_, ?_⟩
      · rw [tailJournal]
        exact List.mem_append_right later inside
      · rw [tail.pid]
        exact reaps

theorem waits_of_collects {before after : World} (collects : Collects before after) :
    Waits before after :=
  ⟨collects.pid, ⟨[], collects.journal, nofun⟩,
    fun missing present => absurd (collects.result_.mpr missing) present⟩

theorem file_within {Value : Type} (answer : Except Nat Value) :
    Within Collects NotKill (file answer) := by
  cases answer with
  | error errno => exact within_throw collects_refl nofun
  | ok value => exact within_pure collects_refl value

theorem update_within (change : Result → Result) : Within Collects NotKill (update change) := by
  constructor
  · intro world value after returned
    cases present : world.process.result_ with
    | none =>
        rw [update, bind_get, present] at returned
        cases returned
    | some result =>
        rw [update, bind_get, present] at returned
        cases returned
        exact ⟨rfl, rfl, by simp [present]⟩
  · intro world ending after thrown
    cases present : world.process.result_ with
    | none =>
        rw [update, bind_get, present] at thrown
        cases thrown
        exact ⟨collects_refl world, nofun⟩
    | some result =>
        rw [update, bind_get, present] at thrown
        cases thrown

theorem collect_within (files : Files) : Within Collects NotKill (collectOutput files) :=
  within_bind collects_trans (file_within files.readOut) fun _ =>
    within_bind collects_trans (update_within _) fun _ =>
      within_bind collects_trans (file_within files.removeOut) fun _ =>
        within_bind collects_trans (file_within files.readErr) fun _ =>
          within_bind collects_trans (update_within _) fun _ => file_within files.removeErr

theorem waits_answer (world : World) (noHang : Bool) (answer : Except Nat (Option StatLoc)) :
    Waits world
      { world with journal := .waited world.process.pid_ noHang answer :: world.journal } := by
  refine ⟨rfl, ⟨[.waited world.process.pid_ noHang answer], rfl, ?_⟩,
    fun missing present => absurd missing present⟩
  intro event inside
  exact ⟨noHang, answer, List.mem_singleton.mp inside⟩

theorem waits_reap (world : World) (noHang : Bool) (statLoc : StatLoc) (result : Result) :
    Waits world
      { process := { world.process with result_ := some result }
        journal := .waited world.process.pid_ noHang (.ok (some statLoc)) :: world.journal } := by
  refine ⟨rfl, ⟨[.waited world.process.pid_ noHang (.ok (some statLoc))], rfl, ?_⟩, ?_⟩
  · intro event inside
    exact ⟨noHang, .ok (some statLoc), List.mem_singleton.mp inside⟩
  · intro _ _
    exact ⟨_, List.mem_cons_self, noHang, statLoc, rfl⟩

/-- What is asked of a call that is made in some state. -/
structure WaitsFrom (call : Call Unit) (world : World) : Prop where
  returned : ∀ after, call world = .ok () after → Waits world after
  thrown : ∀ ending after, call world = .error ending after → Waits world after ∧ NotKill ending

theorem waits_from_of_eq {call : Call Unit} (next : Call Unit) {world middle : World}
    (same : call world = next middle) (first : Waits world middle)
    (rest : WaitsFrom next middle) : WaitsFrom call world := by
  constructor
  · intro after returned
    rw [same] at returned
    exact waits_trans _ _ _ first (rest.returned after returned)
  · intro ending after thrown
    rw [same] at thrown
    obtain ⟨waits, other⟩ := rest.thrown ending after thrown
    exact ⟨waits_trans _ _ _ first waits, other⟩

theorem waits_from_bind {call next : Call Unit} {world : World} (head : WaitsFrom call world)
    (tail : ∀ after, call world = .ok () after → WaitsFrom next after) :
    WaitsFrom (call >>= fun _ => next) world := by
  constructor
  · intro after returned
    obtain ⟨_, middle, called, rest⟩ := bind_eq_ok.mp returned
    exact waits_trans _ _ _ (head.returned middle called) ((tail middle called).returned after rest)
  · intro ending after thrown
    rcases bind_eq_error.mp thrown with failed | ⟨_, middle, called, rest⟩
    · exact head.thrown ending after failed
    · obtain ⟨waits, other⟩ := (tail middle called).thrown ending after rest
      exact ⟨waits_trans _ _ _ (head.returned middle called) waits, other⟩

theorem waits_from_return (world : World) : WaitsFrom (pure ()) world := by
  constructor
  · intro after returned
    cases returned
    exact waits_refl world
  · intro ending after thrown
    cases thrown

theorem waits_from_throw {ending : Ending} (other : NotKill ending) (world : World) :
    WaitsFrom (throw ending) world := by
  constructor
  · intro after returned
    cases returned
  · intro raised after thrown
    cases thrown
    exact ⟨waits_refl world, other⟩

theorem collect_waits (files : Files) (world : World) : WaitsFrom (collectOutput files) world where
  returned after returned :=
    waits_of_collects ((collect_within files).returned world () after returned)
  thrown ending after thrown :=
    have outcome := (collect_within files).thrown world ending after thrown
    ⟨waits_of_collects outcome.1, outcome.2⟩

theorem wait_once_interrupted (files : Files) (world : World) :
    waitOnce files (.error EINTR) world =
      .ok () { world with
        journal := .waited world.process.pid_ false (.error EINTR) :: world.journal } :=
  rfl

theorem wait_once_fails (files : Files) {errno : Nat} (other : errno ≠ EINTR) (world : World) :
    waitOnce files (.error errno) world =
      .error (.systemError "waitpid" errno) { world with
        journal := .waited world.process.pid_ false (.error errno) :: world.journal } := by
  change (if errno ≠ EINTR then throw (.systemError "waitpid" errno) else pure () : Call Unit) _ = _
  rw [if_pos other]
  rfl

theorem wait_once_waits (files : Files) (answer : Except Nat StatLoc) (world : World) :
    WaitsFrom (waitOnce files answer) world := by
  cases answer with
  | ok statLoc =>
      have collects : waitOnce files (.ok statLoc) world = collectOutput files
          { process := { world.process with result_ := some (({} : Result).assign statLoc) }
            journal := .waited world.process.pid_ false (.ok (some statLoc)) :: world.journal } :=
        rfl
      exact waits_from_of_eq _ collects (waits_reap world false statLoc _) (collect_waits files _)
  | error errno =>
      have waits := waits_answer world false (.error errno)
      by_cases again : errno = EINTR
      · subst again
        exact waits_from_of_eq (pure ()) (wait_once_interrupted files world) waits
          (waits_from_return _)
      · exact waits_from_of_eq (throw _) (wait_once_fails files again world) waits
          (waits_from_throw (not_kill_waitpid errno) _)

theorem wait_loop_missing (files : Files) (answer : Except Nat StatLoc)
    (answers : List (Except Nat StatLoc)) {world : World} (missing : world.process.result_ = none) :
    waitLoop files (answer :: answers) world =
      (waitOnce files answer >>= fun _ => waitLoop files answers) world := by
  rw [waitLoop, bind_get, if_pos (by simp [missing])]

theorem wait_loop_done (files : Files) (answers : List (Except Nat StatLoc)) {world : World}
    (done : world.process.result_ ≠ none) :
    waitLoop files answers world = (pure () : Call Unit) world := by
  have present : ¬world.process.result_.isNone = true := by simpa using done
  cases answers with
  | nil => rw [waitLoop, bind_get, if_neg present]
  | cons answer answers => rw [waitLoop, bind_get, if_neg present]

theorem wait_loop_waits (files : Files) (answers : List (Except Nat StatLoc)) (world : World) :
    WaitsFrom (waitLoop files answers) world := by
  induction answers generalizing world with
  | nil =>
      by_cases missing : world.process.result_ = none
      · have other : NotKill .blocked := nofun
        have blocked : waitLoop files [] world = (throw .blocked : Call Unit) world := by
          rw [waitLoop, bind_get, if_pos (by simp [missing])]
        exact waits_from_of_eq _ blocked (waits_refl world) (waits_from_throw other world)
      · exact waits_from_of_eq _ (wait_loop_done files [] missing) (waits_refl world)
          (waits_from_return world)
  | cons answer answers ih =>
      by_cases missing : world.process.result_ = none
      · exact waits_from_of_eq _ (wait_loop_missing files answer answers missing) (waits_refl world)
          (waits_from_bind (wait_once_waits files answer world) fun after _ => ih after)
      · exact waits_from_of_eq _ (wait_loop_done files (answer :: answers) missing)
          (waits_refl world) (waits_from_return world)

theorem wait_loop_returns {files : Files} {answers : List (Except Nat StatLoc)}
    {world after : World} (returned : waitLoop files answers world = .ok () after) :
    after.process.result_ ≠ none := by
  induction answers generalizing world with
  | nil =>
      by_cases missing : world.process.result_ = none
      · rw [waitLoop, bind_get, if_pos (by simp [missing])] at returned
        cases returned
      · rw [wait_loop_done files [] missing] at returned
        cases returned
        exact missing
  | cons answer answers ih =>
      by_cases missing : world.process.result_ = none
      · rw [wait_loop_missing files answer answers missing] at returned
        obtain ⟨_, middle, _, rest⟩ := bind_eq_ok.mp returned
        exact ih rest
      · rw [wait_loop_done files (answer :: answers) missing] at returned
        cases returned
        exact missing

section Valid

variable (world : World) (live : world.process.pid_ ≠ 0)
include live

theorem valid_eq : valid world = .ok () world := by
  rw [valid, bind_get, if_neg live]
  rfl

theorem poll_done (answer : Except Nat (Option StatLoc)) (files : Files)
    (done : world.process.result_ ≠ none) : poll answer files world = .ok () world := by
  unfold poll
  rw [bind_of_ok (valid_eq _ live), bind_get, if_neg (by simpa using done)]
  rfl

theorem poll_asks (answer : Except Nat (Option StatLoc)) (files : Files)
    (missing : world.process.result_ = none) :
    poll answer files world =
      match answer with
      | .ok none =>
          .ok () { world with
            journal := .waited world.process.pid_ true (.ok none) :: world.journal }
      | .ok (some statLoc) =>
          collectOutput files
            { process := { world.process with result_ := some (({} : Result).assign statLoc) }
              journal := .waited world.process.pid_ true (.ok (some statLoc)) :: world.journal }
      | .error errno =>
          .error (.systemError "waitpid" errno) { world with
            journal := .waited world.process.pid_ true (.error errno) :: world.journal } := by
  unfold poll
  rw [bind_of_ok (valid_eq _ live), bind_get, if_pos (by simp [missing])]
  cases answer with
  | error errno => rfl
  | ok status =>
      cases status with
      | none => rfl
      | some statLoc => rfl

theorem poll_waits (answer : Except Nat (Option StatLoc)) (files : Files)
    (missing : world.process.result_ = none) : WaitsFrom (poll answer files) world := by
  have asks := poll_asks world live answer files missing
  cases answer with
  | error errno =>
      exact waits_from_of_eq (throw (.systemError "waitpid" errno)) asks
        (waits_answer world true (.error errno)) (waits_from_throw (not_kill_waitpid errno) _)
  | ok status =>
      cases status with
      | none =>
          exact waits_from_of_eq (pure ()) asks (waits_answer world true (.ok none))
            (waits_from_return _)
      | some statLoc =>
          exact waits_from_of_eq _ asks (waits_reap world true statLoc _) (collect_waits files _)

theorem poll_returns {answer : Except Nat (Option StatLoc)} {files : Files} {after : World}
    (missing : world.process.result_ = none) (polled : answer ≠ .ok none)
    (returned : poll answer files world = .ok () after) : after.process.result_ ≠ none := by
  rw [poll_asks world live answer files missing] at returned
  cases answer with
  | error errno => cases returned
  | ok status =>
      cases status with
      | none => exact absurd rfl polled
      | some statLoc =>
          have collects := (collect_within files).returned _ () after returned
          intro absent
          cases collects.result_.mp absent

end Valid

def reached : EStateM.Result Ending World Unit → World
  | .ok _ world => world
  | .error _ world => world

/-- `stop` returns only after the child has been reaped, reports that it may not be
signalled instead of waiting, and sends no signal once the child is reaped. -/
structure StopSound (answers : Answers) (process : AsyncProcess) : Prop where
  returned : ∀ after, stop answers { process } = .ok () after →
    process.result_ ≠ none ∨ Reaped after
  reported : ∀ errno,
    .killed process.pid_ (.error errno) ∈ (reached (stop answers { process })).journal →
      (∃ after, stop answers { process } = .error (.systemError "kill" errno) after) ∧
      ∀ answer, .waited process.pid_ false answer ∉ (reached (stop answers { process })).journal
  done : process.result_ ≠ none →
    ∀ event ∈ (reached (stop answers { process })).journal, ¬Signals process.pid_ event
  ordered : (reached (stop answers { process })).journal.Pairwise fun newer older =>
    Signals process.pid_ newer → ¬Reaps process.pid_ older

section Sound

variable {answers : Answers} {process : AsyncProcess}

theorem not_signals_of_waits {world after : World} (waits : Waits world after)
    (empty : world.journal = []) : ∀ event ∈ after.journal, ¬Signals world.process.pid_ event := by
  obtain ⟨events, journal, waited⟩ := waits.journal
  rw [empty, List.append_nil] at journal
  intro event inside ⟨answer, signal⟩
  rw [journal] at inside
  obtain ⟨noHang, status, wait⟩ := waited event inside
  rw [signal] at wait
  cases wait

theorem waits_reached {call : Call Unit} {world : World} (from_ : WaitsFrom call world) :
    Waits world (reached (call world)) := by
  cases ends : call world with
  | ok value after => exact from_.returned after ends
  | error ending after => exact (from_.thrown ending after ends).1

theorem ordered_of_silent {pid : Pid} {events : List ProcessEvent}
    (silent : ∀ event ∈ events, ¬Signals pid event) :
    events.Pairwise fun newer older => Signals pid newer → ¬Reaps pid older := by
  induction events with
  | nil => exact .nil
  | cons event events ih =>
      have rest := ih fun other inside => silent other (List.mem_cons_of_mem event inside)
      refine .cons (fun older _ signals => ?_) rest
      exact absurd signals (silent event List.mem_cons_self)

theorem sound_of_silent (silent : WaitsFrom (stop answers) { process })
    (returned : ∀ after, stop answers { process } = .ok () after →
      process.result_ ≠ none ∨ Reaped after) : StopSound answers process := by
  have none := not_signals_of_waits (waits_reached silent) rfl
  refine ⟨returned, ?_, fun _ => none, ?_⟩
  · intro errno inside
    exact absurd ⟨_, rfl⟩ (none _ inside)
  · exact ordered_of_silent none

theorem stop_returns {after : World} (returned : stop answers { process } = .ok () after) :
    after.process.result_ ≠ none := by
  unfold stop at returned
  obtain ⟨_, _, _, asked⟩ := bind_eq_ok.mp returned
  obtain ⟨_, polled, _, rest⟩ := bind_eq_ok.mp asked
  rw [bind_get] at rest
  by_cases missing : polled.process.result_ = none
  · rw [if_pos (by simp [missing])] at rest
    obtain ⟨_, _, _, waits⟩ := bind_eq_ok.mp rest
    rw [if_neg (kill_passes answers.kill)] at waits
    obtain ⟨_, _, _, loop⟩ := bind_eq_ok.mp waits
    exact wait_loop_returns loop
  · rw [if_neg (by simpa using missing)] at rest
    cases rest
    exact missing

variable (live : process.pid_ ≠ 0)
include live

theorem stop_done (done : process.result_ ≠ none) :
    stop answers { process } = .ok () { process } := by
  have present : ¬process.result_.isNone = true := by simpa using done
  unfold stop
  rw [bind_of_ok (valid_eq _ live), bind_of_ok (poll_done _ live _ _ done), bind_get,
    if_neg present]
  rfl

/-- Unless the child is running, `stop` does nothing but ask once. -/
theorem stop_polled (missing : process.result_ = none) (polled : answers.poll ≠ .ok none) :
    WaitsFrom (stop answers) { process } := by
  have asks := poll_waits { process } live answers.poll answers.files missing
  apply waits_from_bind (waits_from_of_eq _ (valid_eq _ live) (waits_refl _) (waits_from_return _))
  intro checked passed
  rw [valid_eq _ live] at passed
  cases passed
  apply waits_from_bind asks
  intro after returned
  have present : ¬after.process.result_.isNone = true := by
    simpa using poll_returns { process } live missing polled returned
  refine waits_from_of_eq (pure ()) ?_ (waits_refl after) (waits_from_return after)
  rw [bind_get, if_neg present]

def signalled (process : AsyncProcess) (answer : Except Nat Unit) : World :=
  { process
    journal := [.killed process.pid_ answer, .waited process.pid_ true (.ok none)] }

theorem stop_waits (missing : process.result_ = none) (polled : answers.poll = .ok none) :
    stop answers { process } =
      waitLoop answers.files answers.wait (signalled process answers.kill) := by
  have asks := poll_asks { process } live answers.poll answers.files missing
  rw [polled] at asks
  have absent : process.result_.isNone = true := by simp [missing]
  unfold stop
  rw [bind_of_ok (valid_eq _ live), polled, bind_of_ok asks, bind_get, if_pos absent]
  change (if lnot (killValue answers.kill) < 0 then _
    else wait answers.wait answers.files : Call Unit) (signalled process answers.kill) = _
  rw [if_neg (kill_passes answers.kill), wait, bind_of_ok (valid_eq _ live)]

theorem reported_iff_sent (missing : process.result_ = none) (polled : answers.poll = .ok none) :
    StopSound answers process ↔ answers.kill = .ok () := by
  have ends := stop_waits live missing polled
  have loop := wait_loop_waits answers.files answers.wait (signalled process answers.kill)
  have waits : Waits (signalled process answers.kill) (reached (stop answers { process })) := by
    rw [ends]
    exact waits_reached loop
  obtain ⟨events, journal, waited⟩ := waits.journal
  have unsignalled : ∀ event ∈ events, ¬Signals process.pid_ event := by
    intro event inside ⟨answer, signal⟩
    obtain ⟨noHang, status, wait⟩ := waited event inside
    rw [signal] at wait
    cases wait
  constructor
  · intro sound
    cases kill : answers.kill with
    | ok sent => rfl
    | error errno =>
        have made : .killed process.pid_ (.error errno) ∈
            (reached (stop answers { process })).journal := by
          rw [journal, signalled, kill]
          simp
        obtain ⟨⟨after, thrown⟩, _⟩ := sound.reported errno made
        rw [ends] at thrown
        exact absurd rfl ((loop.thrown _ after thrown).2 errno)
  · intro sent
    refine ⟨?_, ?_, fun done => absurd missing done, ?_⟩
    · intro after returned
      have present := stop_returns returned
      rw [ends] at returned
      exact .inr ((loop.returned after returned).reaped missing present)
    · intro errno made
      rw [journal, signalled, sent] at made
      rcases List.mem_append.mp made with wait | first
      · exact absurd ⟨_, rfl⟩ (unsignalled _ wait)
      · simp at first
    · rw [journal, List.pairwise_append]
      refine ⟨?_, ?_, ?_⟩
      · exact ordered_of_silent unsignalled
      · have asked : ¬Reaps process.pid_ (.waited process.pid_ true (.ok none)) := by
          rintro ⟨noHang, statLoc, same⟩
          cases same
        simp [signalled, asked]
      · intro newer inside older _ signals
        exact absurd signals (unsignalled newer inside)

/-- `stop` is as expected exactly where it sends no signal or the signal is sent. -/
theorem stop_sound_iff : StopSound answers process ↔
    process.result_ ≠ none ∨ answers.poll ≠ .ok none ∨ answers.kill = .ok () := by
  by_cases missing : process.result_ = none
  · by_cases polled : answers.poll = .ok none
    · rw [reported_iff_sent live missing polled]
      simp [missing, polled]
    · have silent := stop_polled live missing polled
      have sound := sound_of_silent silent fun after returned =>
        .inr ((silent.returned after returned).reaped missing (stop_returns returned))
      exact iff_of_true sound (.inr (.inl polled))
  · have silent : WaitsFrom (stop answers) { process } :=
      waits_from_of_eq (pure ()) (stop_done live missing) (waits_refl _) (waits_from_return _)
    exact iff_of_true (sound_of_silent silent fun _ _ => .inl missing) (.inl missing)

end Sound

/-- The call that a member function makes next, whatever is answered. -/
def Steps (kernel : Kernel) (object : Object) (step : AsyncProcess.Step) : Prop :=
  match object.control with
  | .idle => False
  | .waiting _ => ∃ answer, AsyncProcess.waited answer kernel object = some step
  | .polling _ => ∃ answer, AsyncProcess.polled answer kernel object = some step
  | .killing _ => ∃ answer, AsyncProcess.killed answer kernel object = some step
  | .collecting _ _ => ∃ answer, AsyncProcess.collect answer kernel object = some step

/-- A member function goes on to its end while the kernel changes between the steps. -/
inductive Runs : Object → List ProcessEvent → AsyncProcess → Prop
  | done (process : AsyncProcess) : Runs { process } [] process
  | step {kernel changed : Kernel} {object next : Object} {events later : List ProcessEvent}
      {after : AsyncProcess} (made : Steps kernel object (some next, events, changed))
      (rest : Runs next later after) : Runs object (later ++ events) after

section Runs

variable {process after : AsyncProcess} {events : List ProcessEvent} {result : Result}

theorem runs_idle (runs : Runs { process } events after) : events = [] ∧ after = process := by
  cases runs with
  | done => exact ⟨rfl, rfl⟩
  | step made rest => exact False.elim made

theorem runs_collecting {stage : Stage}
    (runs : Runs { process, control := .collecting stage .stop } events after) :
    ∃ kernel changed next made later answer,
      AsyncProcess.collect answer kernel { process, control := .collecting stage .stop } =
        some (some next, made, changed) ∧
      Runs next later after ∧ events = later ++ made := by
  cases runs with
  | step made rest =>
      obtain ⟨answer, made⟩ := made
      exact ⟨_, _, _, _, _, answer, made, rest, rfl⟩

theorem failed_run {stage : Stage} {errno : Nat} {kernel changed : Kernel} {next : Object}
    {made later : List ProcessEvent}
    (collected : AsyncProcess.collect (.error errno) kernel
      { process, control := .collecting stage .stop } = some (some next, made, changed))
    (present : process.result_ = some result) (rest : Runs next later after) :
    later ++ made = [] ∧ after = process := by
  simp only [AsyncProcess.collect, present] at collected
  cases collected
  obtain ⟨rfl, rfl⟩ := runs_idle rest
  exact ⟨rfl, rfl⟩

theorem update_some (change : Result → Result) {world : World}
    (present : world.process.result_ = some result) :
    update change world =
      .ok () { world with process := { world.process with result_ := some (change result) } } := by
  rw [update, bind_get, present]
  rfl

theorem runs_remove_err
    (runs : Runs { process, control := .collecting .removeErr .stop } events after)
    (present : process.result_ = some result) :
    ∃ removeErr, ∀ journal, reached (file removeErr { process, journal }) =
      { process := after, journal := events ++ journal } := by
  obtain ⟨kernel, changed, next, made, later, answer, collected, rest, rfl⟩ := runs_collecting runs
  refine ⟨answer, fun journal => ?_⟩
  cases answer with
  | error errno =>
      obtain ⟨silent, rfl⟩ := failed_run collected present rest
      rw [silent]
      rfl
  | ok removed =>
      simp only [AsyncProcess.collect, present] at collected
      cases collected
      obtain ⟨rfl, rfl⟩ := runs_idle rest
      rfl

theorem runs_read_err
    (runs : Runs { process, control := .collecting .readErr .stop } events after)
    (present : process.result_ = some result) :
    ∃ readErr removeErr, ∀ journal,
      reached ((do
        let err ← file readErr
        update fun result => { result with err }
        file removeErr : Call Unit) { process, journal }) =
      { process := after, journal := events ++ journal } := by
  obtain ⟨kernel, changed, next, made, later, answer, collected, rest, rfl⟩ := runs_collecting runs
  cases answer with
  | error errno =>
      obtain ⟨silent, rfl⟩ := failed_run collected present rest
      rw [silent]
      exact ⟨.error errno, .ok (), fun _ => rfl⟩
  | ok read =>
      simp only [AsyncProcess.collect, present] at collected
      split at collected
      · cases collected
      cases collected
      obtain ⟨removeErr, removed⟩ := runs_remove_err rest rfl
      refine ⟨.ok (kernel.contents process.err_), removeErr, fun journal => ?_⟩
      rw [bind_of_ok (show file _ _ = .ok _ _ from rfl), bind_of_ok (update_some _ present)]
      simpa using removed journal

theorem runs_remove_out
    (runs : Runs { process, control := .collecting .removeOut .stop } events after)
    (present : process.result_ = some result) :
    ∃ removeOut readErr removeErr, ∀ journal,
      reached ((do
        file removeOut
        let err ← file readErr
        update fun result => { result with err }
        file removeErr : Call Unit) { process, journal }) =
      { process := after, journal := events ++ journal } := by
  obtain ⟨kernel, changed, next, made, later, answer, collected, rest, rfl⟩ := runs_collecting runs
  cases answer with
  | error errno =>
      obtain ⟨silent, rfl⟩ := failed_run collected present rest
      rw [silent]
      exact ⟨.error errno, .ok [], .ok (), fun _ => rfl⟩
  | ok removed =>
      simp only [AsyncProcess.collect, present] at collected
      cases collected
      obtain ⟨readErr, removeErr, read⟩ := runs_read_err rest present
      refine ⟨.ok (), readErr, removeErr, fun journal => ?_⟩
      rw [bind_of_ok (show file _ _ = .ok _ _ from rfl)]
      simpa using read journal

theorem runs_collects
    (runs : Runs { process, control := .collecting .readOut .stop } events after)
    (present : process.result_ = some result) :
    ∃ files, ∀ journal, reached (collectOutput files { process, journal }) =
      { process := after, journal := events ++ journal } := by
  obtain ⟨kernel, changed, next, made, later, answer, collected, rest, rfl⟩ := runs_collecting runs
  cases answer with
  | error errno =>
      obtain ⟨silent, rfl⟩ := failed_run collected present rest
      rw [silent]
      exact ⟨⟨.error errno, .ok (), .ok [], .ok ()⟩, fun _ => rfl⟩
  | ok read =>
      simp only [AsyncProcess.collect, present] at collected
      split at collected
      · cases collected
      cases collected
      obtain ⟨removeOut, readErr, removeErr, removed⟩ := runs_remove_out rest rfl
      refine ⟨⟨.ok (kernel.contents process.out_), removeOut, readErr, removeErr⟩,
        fun journal => ?_⟩
      unfold collectOutput
      rw [bind_of_ok (show file _ _ = .ok _ _ from rfl), bind_of_ok (update_some _ present)]
      simpa using removed journal

theorem reaped_runs {noHang : Bool} {statLoc : StatLoc} {kernel changed : Kernel} {next : Object}
    {made later : List ProcessEvent}
    (reaps : AsyncProcess.reaped .stop noHang statLoc kernel process =
      some (some next, made, changed))
    (rest : Runs next later after) :
    ∃ files, ∀ journal,
      reached (collectOutput files
        { process := { process with result_ := some (({} : Result).assign statLoc) }
          journal := .waited process.pid_ noHang (.ok (some statLoc)) :: journal }) =
      { process := after, journal := later ++ made ++ journal } := by
  unfold AsyncProcess.reaped at reaps
  cases found : kernel.children.lookup process.pid_ with
  | none =>
      rw [found] at reaps
      cases reaps
  | some child =>
      rw [found, Option.bind_some] at reaps
      split at reaps
      · cases reaps
        obtain ⟨files, collects⟩ := runs_collects rest rfl
        refine ⟨files, fun journal => ?_⟩
        rw [collects, List.append_assoc]
        rfl
      · cases reaps

theorem reached_bind {call next : Call Unit} {world : World}
    (done : ∀ middle, call world = .ok () middle → next middle = .ok () middle) :
    reached ((call >>= fun _ => next) world) = reached (call world) := by
  cases called : call world with
  | ok value middle => rw [bind_of_ok called, done middle called]
  | error ending middle =>
      have thrown : (call >>= fun _ => next) world = .error ending middle :=
        bind_eq_error.mpr (.inl called)
      rw [thrown]

theorem collect_keeps {files : Files} {world after : World}
    (present : world.process.result_ = some result)
    (collected : collectOutput files world = .ok () after) : after.process.result_ ≠ none := by
  intro missing
  have none := ((collect_within files).returned world () after collected).result_.mp missing
  rw [present] at none
  cases none

theorem waiting_runs {object : Object} (runs : Runs object events after)
    (waiting : object = { process, control := .waiting .stop }) (missing : process.result_ = none) :
    ∃ answers files, ∀ journal, reached (waitLoop files answers { process, journal }) =
      { process := after, journal := events ++ journal } := by
  induction runs with
  | done idle => cases waiting
  | step made rest ih =>
      subst waiting
      obtain ⟨answer, made⟩ := made
      cases answer with
      | ok statLoc =>
          obtain ⟨files, collects⟩ := reaped_runs made rest
          refine ⟨[.ok statLoc], files, fun journal => ?_⟩
          rw [wait_loop_missing files _ [] missing, reached_bind]
          · exact collects journal
          · intro middle collected
            exact wait_loop_done files [] (collect_keeps rfl collected)
      | error errno =>
          simp only [AsyncProcess.waited] at made
          by_cases again : errno = EINTR
          · subst again
            rw [if_pos rfl] at made
            cases made
            obtain ⟨answers, files, waits⟩ := ih rfl
            refine ⟨.error EINTR :: answers, files, fun journal => ?_⟩
            rw [wait_loop_missing files _ answers missing,
              bind_of_ok (wait_once_interrupted files _), waits]
            simp
          · rw [if_neg again] at made
            cases made
            obtain ⟨rfl, rfl⟩ := runs_idle rest
            refine ⟨[.error errno], ⟨.ok [], .ok (), .ok [], .ok ()⟩, fun journal => ?_⟩
            rw [wait_loop_missing _ _ [] missing, reached_bind]
            · rw [wait_once_fails _ again]
              rfl
            · intro middle returned
              rw [wait_once_fails _ again] at returned
              cases returned

theorem killing_runs (runs : Runs { process, control := .killing .stop } events after)
    (missing : process.result_ = none) :
    ∃ answer answers files, ∀ journal,
      reached (waitLoop files answers
        { process, journal := .killed process.pid_ answer :: journal }) =
      { process := after, journal := events ++ journal } := by
  cases runs with
  | step made rest =>
      obtain ⟨answer, made⟩ := made
      cases made
      obtain ⟨answers, files, waits⟩ := waiting_runs rest rfl missing
      refine ⟨answer, answers, files, fun journal => ?_⟩
      rw [waits, List.append_assoc]
      rfl

theorem stop_polls {answers : Answers} (live : process.pid_ ≠ 0) (missing : process.result_ = none)
    (polled : answers.poll ≠ .ok none) :
    reached (stop answers { process }) = reached (poll answers.poll answers.files { process }) := by
  unfold stop
  rw [bind_of_ok (valid_eq _ live), reached_bind]
  intro middle returned
  have present : ¬middle.process.result_.isNone = true := by
    simpa using poll_returns { process } live missing polled returned
  rw [bind_get, if_neg present]
  rfl

/-- A run of `stop` to its end is a call of it with the answers given in the run. -/
theorem stop_runs (live : process.pid_ ≠ 0) (missing : process.result_ = none)
    (runs : Runs { process, control := .polling .stop } events after) :
    ∃ answers, reached (stop answers { process }) = { process := after, journal := events } := by
  cases runs with
  | step made rest =>
      obtain ⟨answer, made⟩ := made
      cases answer with
      | error errno =>
          cases made
          obtain ⟨rfl, rfl⟩ := runs_idle rest
          refine ⟨⟨.error errno, .ok (), [], ⟨.ok [], .ok (), .ok [], .ok ()⟩⟩, ?_⟩
          rw [stop_polls live missing, poll_asks _ live _ _ missing]
          · rfl
          · intro same
            cases same
      | ok status =>
          cases status with
          | none =>
              simp only [AsyncProcess.polled] at made
              split at made
              · cases made
                obtain ⟨answer, answers, files, waits⟩ := killing_runs rest missing
                refine ⟨⟨.ok none, answer, answers, files⟩, ?_⟩
                rw [stop_waits live missing rfl]
                exact waits _
              · cases made
          | some statLoc =>
              obtain ⟨files, collects⟩ := reaped_runs made rest
              refine ⟨⟨.ok (some statLoc), .ok (), [], files⟩, ?_⟩
              rw [stop_polls live missing, poll_asks _ live _ _ missing]
              · simpa using collects []
              · intro same
                cases same

end Runs

def runningChild : AsyncProcess := { in_ := 0, out_ := 1, err_ := 2, pid_ := 700 }

def ordinaryStop : Answers where
  poll := .ok none
  kill := .ok ()
  wait := [.error EINTR, .ok 9]
  files := { readOut := .ok [79, 75], removeOut := .ok (), readErr := .ok [], removeErr := .ok () }

theorem ordinary_stop_sound : StopSound ordinaryStop runningChild :=
  (stop_sound_iff (show runningChild.pid_ ≠ 0 by decide)).mpr (.inr (.inr rfl))

/-- The signal is refused with EPERM, and the child goes on running. -/
theorem refused_signal_blocks :
    ¬StopSound { ordinaryStop with kill := .error 1, wait := [] } runningChild := by
  intro sound
  have made : ProcessEvent.killed 700 (.error 1) ∈
      [ProcessEvent.killed 700 (.error 1), .waited 700 true (.ok none)] := List.mem_cons_self
  obtain ⟨⟨after, thrown⟩, _⟩ := sound.reported 1 made
  cases thrown

end ContestSystem.Execution.Stop
