import ContestSystem.Execution.AsyncProcess

/-!
# Each pid has one owner until it is reaped

A valid value without a result owns its pid. What the values own, together with
the pids whose owner was destroyed by a failing `waitpid`, is what has been
forked and not reaped. Every call that names a pid is made by its owner, so the
kernel has not given the pid to anybody else.
-/

namespace ContestSystem.Execution

open ContestSystem.Lib.Ownership ContestSystem.Lib.Run ContestSystem.Lib.Unordered
  ContestSystem.Unistd

set_option autoImplicit false

namespace ProcessEvent

def effect : ProcessEvent → Effect Pid
  | .forked pid => .takes pid
  | .waited pid _ (.ok (some _)) => .returns pid
  | _ => .nothing

/-- The pid that a call of `kill` or `waitpid` names. -/
def names : ProcessEvent → Option Pid
  | .waited pid _ _ => some pid
  | .killed pid _ => some pid
  | _ => none

/-- A failing `waitpid`, other than one that `wait` makes again. -/
def FailedWait : ProcessEvent → Prop
  | .waited _ noHang (.error errno) => noHang = true ∨ errno ≠ EINTR
  | _ => False

end ProcessEvent

open ProcessEvent

/-- Every pid that is named has been forked and not reaped. -/
def Named : List ProcessEvent → Prop :=
  Accounted fun earlier event => ∀ pid, event.names = some pid → pid ∈ outstanding effect earlier

/-- Between two times that a pid is reaped it has been forked. -/
def ReapedInTurn (journal : List ProcessEvent) : Prop :=
  ∀ (pid : Pid) (later middle earlier : List ProcessEvent) (first second : Bool)
    (one two : StatLoc),
    journal = later ++ .waited pid second (.ok (some two)) ::
        (middle ++ .waited pid first (.ok (some one)) :: earlier) →
      .forked pid ∈ middle

def DistinctPids (system : System) : Prop :=
  ∀ (first second : Address) (one two : Object),
    system.processes.store.lookup first = some one →
    system.processes.store.lookup second = some two →
    one.process.result_ = none → two.process.result_ = none →
    one.process.pid_ ≠ 0 → one.process.pid_ = two.process.pid_ → first = second

def AllReaped (journal : List ProcessEvent) : Prop :=
  ∀ later pid earlier, journal = later ++ .forked pid :: earlier →
    ∃ noHang statLoc, .waited pid noHang (.ok (some statLoc)) ∈ later

def holding (object : Object) : Multiset Pid :=
  if object.process.pid_ ≠ 0 ∧ object.process.result_ = none then {object.process.pid_} else 0

def holdingAfter (after : Option Object) : Multiset Pid :=
  after.elim 0 holding

/-- A value that is about to name its pid owns it. -/
def Phase (object : Object) : Prop :=
  match object.control with
  | .waiting _ | .polling _ | .killing _ =>
      object.process.pid_ ≠ 0 ∧ object.process.result_ = none
  | .collecting _ _ => object.process.result_ ≠ none
  | .idle => True

/-- `lost` are the pids that have been forked and whose owner is gone. -/
structure Accounts (inHand : Multiset Pid) (journal : List ProcessEvent) : Prop where
  linear : ∃ lost, Linear effect (inHand + lost) journal ∧
    (lost = 0 ∨ ∃ event ∈ journal, event.FailedWait)
  named : Named journal

/-- The accounts around one value; `rest` is what the other ones own. -/
structure Sound (kernel : Kernel) (journal : List ProcessEvent) (rest : Multiset Pid)
    (after : Option Object) : Prop where
  accounts : Accounts (holdingAfter after + rest) journal
  children : ∀ pid, pid ∈ kernel.children ↔ pid ∈ outstanding effect journal
  phase : ∀ object, after = some object → Phase object

section OneValue

variable {kernel : Kernel} {journal : List ProcessEvent} {rest : Multiset Pid}
  {object : Object} {process : AsyncProcess} {control : Control} {call : Call}
  {event : ProcessEvent} {after : Option Object} {pid : Pid}

theorem holding_owner (valid : process.pid_ ≠ 0) (lacks : process.result_ = none) :
    holding { process := process, control := control } = {process.pid_} :=
  if_pos ⟨valid, lacks⟩

theorem holding_result (has : process.result_ ≠ none) :
    holding { process := process, control := control } = 0 := by
  apply if_neg
  intro owner
  exact has owner.2

theorem owned_outstanding {inHand : Multiset Pid} (accounts : Accounts inHand journal)
    (member : pid ∈ inHand) : pid ∈ outstanding effect journal := by
  obtain ⟨lost, linear, _⟩ := accounts.linear
  rw [← linear.balanced]
  exact Multiset.mem_add.mpr (.inl member)

theorem accounts_forked (accounts : Accounts rest journal)
    (fresh : pid ∉ outstanding effect journal) :
    Accounts ({pid} + rest) (.forked pid :: journal) where
  linear := by
    obtain ⟨lost, linear, excused⟩ := accounts.linear
    refine ⟨lost, ?_, ?_⟩
    · rw [add_assoc, Multiset.singleton_add]
      rw [← linear.balanced] at fresh
      exact linear.takes rfl fresh
    · rcases excused with none | ⟨failed, member, wait⟩
      · exact .inl none
      · exact .inr ⟨failed, List.mem_cons_of_mem _ member, wait⟩
  named := ⟨nofun, accounts.named⟩

theorem accounts_nothing {inHand : Multiset Pid} (accounts : Accounts inHand journal)
    (nothing : event.effect = .nothing)
    (named : ∀ pid, event.names = some pid → pid ∈ inHand) :
    Accounts inHand (event :: journal) where
  linear := by
    obtain ⟨lost, linear, excused⟩ := accounts.linear
    refine ⟨lost, ⟨linear.toConserved.nothing nothing, ?_, linear.exclusive⟩, ?_⟩
    · intro other takes
      rw [nothing] at takes
      cases takes
    · rcases excused with none | ⟨failed, member, wait⟩
      · exact .inl none
      · exact .inr ⟨failed, List.mem_cons_of_mem _ member, wait⟩
  named := ⟨fun pid names => owned_outstanding accounts (named pid names), accounts.named⟩

theorem Sound.nothing (sound : Sound kernel journal rest after)
    (nothing : event.effect = .nothing)
    (named : ∀ pid, event.names = some pid → pid ∈ holdingAfter after) :
    Sound kernel (event :: journal) rest after where
  accounts := accounts_nothing sound.accounts nothing
    fun pid names => Multiset.mem_add.mpr (.inl (named pid names))
  children := by
    intro pid
    rw [outstanding_nothing nothing]
    exact sound.children pid
  phase := sound.phase

theorem Sound.change (sound : Sound kernel journal rest after) {next : Option Object}
    (same : holdingAfter next = holdingAfter after)
    (phase : ∀ object, next = some object → Phase object) :
    Sound kernel journal rest next where
  accounts := same ▸ sound.accounts
  children := sound.children
  phase := phase

theorem Sound.go_on
    (sound : Sound kernel journal rest (some { process := process, control := control }))
    (next : Control) (phase : Phase { process := process, control := next }) :
    Sound kernel journal rest (some { process := process, control := next }) := by
  have owned : holdingAfter (some { process := process, control := next }) =
      holdingAfter (some { process := process, control := control }) := rfl
  apply sound.change owned
  intro object same
  cases same
  exact phase

theorem Sound.same_children (sound : Sound kernel journal rest after) {next : Kernel}
    (same : next.children = kernel.children) : Sound next journal rest after where
  accounts := sound.accounts
  children := same ▸ sound.children
  phase := sound.phase

/-- The owner of a pid is destroyed after its `waitpid` has failed. -/
theorem Sound.lost (sound : Sound kernel journal rest after)
    (failed : ∃ event ∈ journal, event.FailedWait) : Sound kernel journal rest none where
  accounts :=
    { linear := by
        obtain ⟨lost, linear, _⟩ := sound.accounts.linear
        refine ⟨holdingAfter after + lost, ?_, .inr failed⟩
        have moved : holdingAfter after + rest + lost =
            holdingAfter none + rest + (holdingAfter after + lost) := by
          simp only [holdingAfter, Option.elim_none, zero_add]
          rw [add_comm (Option.elim after 0 holding) rest, add_assoc]
        rw [← moved]
        exact linear
      named := sound.accounts.named }
  children := sound.children
  phase := nofun

theorem Sound.reaped (sound : Sound kernel journal rest after) {next : Option Object}
    {noHang : Bool} {statLoc : StatLoc} (owner : holdingAfter after = {pid})
    (none : holdingAfter next = 0) (phase : ∀ object, next = some object → Phase object) :
    Sound (kernel.reap pid) (.waited pid noHang (.ok (some statLoc)) :: journal) rest next := by
  obtain ⟨lost, linear, excused⟩ := sound.accounts.linear
  have inside : pid ∈ holdingAfter after + rest := by
    rw [owner]
    exact Multiset.mem_add.mpr (.inl (Multiset.mem_singleton_self pid))
  have split : holdingAfter after + rest + lost = pid ::ₘ (rest + lost) := by
    rw [owner, add_assoc, Multiset.singleton_add]
  have before : Linear effect (pid ::ₘ (rest + lost)) journal := split ▸ linear
  have nodup : (outstanding effect journal).Nodup := outstanding_nodup linear.exclusive
  refine ⟨⟨⟨lost, ?_, ?_⟩, ?_⟩, ?_, phase⟩
  · rw [none, zero_add]
    exact before.returns rfl
  · rcases excused with absent | ⟨failed, member, wait⟩
    · exact .inl absent
    · exact .inr ⟨failed, List.mem_cons_of_mem _ member, wait⟩
  · refine ⟨?_, sound.accounts.named⟩
    intro other names
    cases names
    exact owned_outstanding sound.accounts inside
  · intro other
    have returned : outstanding effect (.waited pid noHang (.ok (some statLoc)) :: journal) =
        (outstanding effect journal).erase pid := outstanding_returns rfl
    rw [returned, nodup.mem_erase_iff, Kernel.reap, AList.mem_erase]
    exact and_congr_right fun _ => sound.children other

/-- The accounts after a step of one value. -/
abbrev StepSound (journal : List ProcessEvent) (rest : Multiset Pid)
    (step : AsyncProcess.Step) : Prop :=
  Sound step.2.2 (step.2.1 ++ journal) rest step.1

theorem complete_sound (has : process.result_ ≠ none)
    (sound : Sound kernel journal rest (some { process := process, control := control })) :
    StepSound journal rest (AsyncProcess.complete call process kernel) := by
  have idle := sound.go_on .idle trivial
  cases call with
  | wait => exact idle.nothing rfl nofun
  | poll => exact idle.nothing rfl nofun
  | stop => exact idle
  | destroy => exact sound.change (holding_result has).symm nofun

/-- A destructor that fails loses the pid, unless the child has been reaped. -/
theorem throw_sound (excused : process.result_ ≠ none ∨ ∃ event ∈ journal, event.FailedWait)
    (sound : Sound kernel journal rest (some { process := process, control := control })) :
    StepSound journal rest (AsyncProcess.throw call process kernel) := by
  have idle := sound.go_on .idle trivial
  cases call with
  | wait => exact idle
  | poll => exact idle
  | stop => exact idle
  | destroy =>
      rcases excused with has | failed
      · exact sound.change (holding_result has).symm nofun
      · exact sound.lost failed

variable {step : AsyncProcess.Step}

theorem begin_sound (sound : Sound kernel journal rest (some object))
    (called : AsyncProcess.begin call kernel object = some step) : StepSound journal rest step := by
  obtain ⟨process, control⟩ := object
  unfold AsyncProcess.begin at called
  split at called
  · split at called
    · rename_i invalid
      split at called
      · cases called
        have nothing : holding { process := process, control := control } = 0 :=
          if_neg fun owner => owner.1 invalid
        exact sound.change nothing.symm nofun
      · cases called
    · rename_i valid
      split at called
      · rename_i result has
        cases called
        exact complete_sound (AsyncProcess.result_ne_none has) sound
      · rename_i lacks
        cases called
        exact sound.go_on _ ⟨valid, lacks⟩
      · rename_i lacks _
        cases called
        exact sound.go_on _ ⟨valid, lacks⟩
  · cases called

theorem reaped_sound {noHang : Bool} {statLoc : StatLoc} (valid : process.pid_ ≠ 0)
    (lacks : process.result_ = none)
    (sound : Sound kernel journal rest (some { process := process, control := control }))
    (called : AsyncProcess.reaped call noHang statLoc kernel process = some step) :
    StepSound journal rest step := by
  obtain ⟨child, _, answered⟩ := Option.bind_eq_some_iff.mp called
  split at answered
  · cases answered
    apply sound.reaped (holding_owner valid lacks)
    · apply holding_result
      exact nofun
    · intro after same
      cases same
      exact nofun
  · cases answered

theorem named_sound (valid : process.pid_ ≠ 0) (lacks : process.result_ = none)
    (sound : Sound kernel journal rest (some { process := process, control := control }))
    (nothing : event.effect = .nothing) (names : event.names = some process.pid_) :
    Sound kernel (event :: journal) rest (some { process := process, control := control }) := by
  apply sound.nothing nothing
  intro pid named
  rw [names] at named
  cases named
  rw [holdingAfter, Option.elim_some, holding_owner valid lacks]
  exact Multiset.mem_singleton_self _

theorem failed_sound (valid : process.pid_ ≠ 0) (lacks : process.result_ = none)
    (sound : Sound kernel journal rest (some { process := process, control := control }))
    (nothing : event.effect = .nothing) (names : event.names = some process.pid_)
    (failed : event.FailedWait) :
    StepSound journal rest
      ((AsyncProcess.throw call process kernel).1,
        (AsyncProcess.throw call process kernel).2.1 ++ [event],
        (AsyncProcess.throw call process kernel).2.2) := by
  have thrown : StepSound (event :: journal) rest (AsyncProcess.throw call process kernel) :=
    throw_sound (.inr ⟨event, List.mem_cons_self, failed⟩)
      (named_sound valid lacks sound nothing names)
  simpa only [StepSound, List.append_assoc, List.singleton_append] using thrown

theorem waited_sound {answer : Except Nat StatLoc}
    (sound : Sound kernel journal rest (some object))
    (called : AsyncProcess.waited answer kernel object = some step) :
    StepSound journal rest step := by
  have phase := sound.phase object rfl
  obtain ⟨process, control⟩ := object
  unfold AsyncProcess.waited at called
  split at called
  · rename_i call statLoc at_
    cases at_
    exact reaped_sound phase.1 phase.2 sound called
  · rename_i call errno at_
    cases at_
    split at called
    · cases called
      exact named_sound phase.1 phase.2 sound rfl rfl
    · rename_i other
      cases called
      exact failed_sound phase.1 phase.2 sound rfl rfl (.inr other)
  · cases called

theorem polled_sound {answer : Except Nat (Option StatLoc)}
    (sound : Sound kernel journal rest (some object))
    (called : AsyncProcess.polled answer kernel object = some step) :
    StepSound journal rest step := by
  have phase := sound.phase object rfl
  obtain ⟨process, control⟩ := object
  unfold AsyncProcess.polled at called
  split at called
  · rename_i call statLoc at_
    cases at_
    exact reaped_sound phase.1 phase.2 sound called
  · rename_i call at_
    cases at_
    split at called
    · have named : Sound kernel (.waited process.pid_ true (.ok none) :: journal) rest
          (some { process := process, control := .polling call }) :=
        named_sound phase.1 phase.2 sound rfl rfl
      have idle := named.go_on .idle trivial
      have killing := named.go_on (.killing call) phase
      split at called
      · cases called
        exact idle.nothing rfl nofun
      · cases called
        exact idle.nothing rfl nofun
      · cases called
        exact killing
      · cases called
        exact killing
    · cases called
  · rename_i call errno at_
    cases at_
    cases called
    exact failed_sound phase.1 phase.2 sound rfl rfl (.inl rfl)
  · cases called

theorem killed_sound {answer : Except Nat Unit}
    (sound : Sound kernel journal rest (some object))
    (called : AsyncProcess.killed answer kernel object = some step) :
    StepSound journal rest step := by
  have phase := sound.phase object rfl
  obtain ⟨process, control⟩ := object
  unfold AsyncProcess.killed at called
  split at called
  · rename_i call at_
    cases at_
    cases called
    have named : Sound kernel (.killed process.pid_ answer :: journal) rest
        (some { process := process, control := .killing call }) :=
      named_sound phase.1 phase.2 sound rfl rfl
    exact named.go_on (.waiting call) phase
  · cases called

theorem Sound.store_result
    (sound : Sound kernel journal rest (some { process := process, control := control }))
    (has : process.result_ ≠ none) (result : Result) (stage : Stage) (call : Call) :
    Sound kernel journal rest
      (some
        { process := { process with result_ := some result }
          control := .collecting stage call }) := by
  have before : holdingAfter (some { process := process, control := control }) = 0 :=
    holding_result has
  have after : holdingAfter
      (some
        { process := { process with result_ := some result }
          control := .collecting stage call }) = 0 := holding_result nofun
  apply sound.change (after.trans before.symm)
  intro object same
  cases same
  exact nofun

theorem collect_sound {answer : Except Nat Unit}
    (sound : Sound kernel journal rest (some object))
    (called : AsyncProcess.collect answer kernel object = some step) :
    StepSound journal rest step := by
  obtain ⟨process, control⟩ := object
  unfold AsyncProcess.collect at called
  split at called
  · rename_i stage call result error at_ has
    cases called
    apply throw_sound _ sound
    exact .inl (AsyncProcess.result_ne_none has)
  · rename_i call result at_ has
    split at called
    · cases called
    · cases called
      exact sound.store_result (AsyncProcess.result_ne_none has) _ _ _
  · rename_i call result at_ has
    cases called
    have going := sound.go_on (.collecting .readErr call) (AsyncProcess.result_ne_none has)
    exact going.same_children rfl
  · rename_i call result at_ has
    split at called
    · cases called
    · cases called
      exact sound.store_result (AsyncProcess.result_ne_none has) _ _ _
  · rename_i call result at_ has
    cases called
    exact complete_sound (AsyncProcess.result_ne_none has) (sound.same_children rfl)
  · cases called

end OneValue

section Programs

variable {system next : System} {action : System.Action}

/-- The accounts of a whole program. -/
structure Owned (system : System) : Prop where
  accounts : Accounts (held holding system.processes.store) system.processes.journal
  children : ∀ pid, pid ∈ system.kernel.children ↔
    pid ∈ outstanding effect system.processes.journal
  phases : ∀ address object, system.processes.store.lookup address = some object → Phase object

theorem act_owned {address : Address} {call : Kernel → Object → Option AsyncProcess.Step}
    (kept : ∀ {journal : List ProcessEvent} {rest : Multiset Pid} {object : Object}
      {step : AsyncProcess.Step}, Sound system.kernel journal rest (some object) →
      call system.kernel object = some step → StepSound journal rest step)
    (owned : Owned system) (stepped : system.act address call = some next) : Owned next := by
  obtain ⟨object, step, found, called, kernel, journal, slots, accounts⟩ :=
    System.act_cases stepped
  obtain ⟨rest, before, after⟩ := accounts holding
  have sound : Sound system.kernel system.processes.journal rest (some object) := by
    refine ⟨before ▸ owned.accounts, owned.children, ?_⟩
    intro other same
    cases same
    exact owned.phases address object found
  have stepSound := kept sound called
  refine ⟨?_, ?_, ?_⟩
  · rw [after, journal]
    exact stepSound.accounts
  · intro pid
    rw [kernel, journal]
    exact stepSound.children pid
  · intro other value lookedUp
    rw [slots] at lookedUp
    split at lookedUp
    · exact stepSound.phase value lookedUp
    · exact owned.phases other value lookedUp

theorem swap_owned {first second : Address} (owned : Owned system)
    (stepped : system.swap first second = some next) : Owned next := by
  rcases System.swap_cases stepped with rfl | ⟨different, kernel, changed⟩
  · exact owned
  · obtain ⟨_, _, _, _, journal, _⟩ := Pool.change_two_cases changed
    have phases : next.processes.All Phase :=
      Pool.change_two_all (fun _ _ one two => ⟨two, one⟩) owned.phases changed
    have accounts : next.processes.Keeps holding Accounts := by
      apply Pool.change_two_keeps _ owned.accounts changed
      intro one two rest _ _ accounts
      rw [add_left_comm]
      exact accounts
    refine ⟨accounts, ?_, phases⟩
    intro pid
    rw [kernel, journal]
    exact owned.children pid

theorem idle_phase (process : AsyncProcess) : Phase { process := process } := trivial

theorem invalid_holding (kernel : Kernel) :
    holding { process := AsyncProcess.invalid kernel } = 0 :=
  if_neg fun owner => owner.1 rfl

theorem construct_owned {address : Address} {pid : Pid} (owned : Owned system)
    (stepped : System.step system (.construct address (.ok pid)) = some next) : Owned next := by
  simp only [System.step] at stepped
  split at stepped
  · cases stepped
  · rename_i usable
    obtain ⟨valid, unused⟩ := not_or.mp usable
    obtain ⟨processes, constructed, rfl⟩ := Option.map_eq_some_iff.mp stepped
    obtain ⟨_, journal, _⟩ := Pool.construct_cases constructed
    have fresh : pid ∉ outstanding effect system.processes.journal := by
      rw [← owned.children]
      exact unused
    have accounts : processes.Keeps holding Accounts := by
      apply Pool.construct_keeps _ owned.accounts constructed
      intro rest accounts
      have holds : holding { process := AsyncProcess.forked pid system.kernel } = {pid} :=
        if_pos ⟨valid, rfl⟩
      rw [holds]
      exact accounts_forked accounts fresh
    refine ⟨accounts, ?_, Pool.construct_all (idle_phase _) owned.phases constructed⟩
    intro other
    have taken : outstanding effect (.forked pid :: system.processes.journal) =
        pid ::ₘ outstanding effect system.processes.journal := outstanding_takes rfl
    rw [journal, List.singleton_append, taken, Multiset.mem_cons, ← owned.children]
    exact AList.mem_insert _

theorem default_owned {address : Address} (owned : Owned system)
    (stepped : System.step system (.default address) = some next) : Owned next := by
  obtain ⟨processes, constructed, rfl⟩ := Option.map_eq_some_iff.mp stepped
  obtain ⟨_, journal, _⟩ := Pool.construct_cases constructed
  have accounts : processes.Keeps holding Accounts := by
    apply Pool.construct_keeps _ owned.accounts constructed
    intro rest accounts
    rw [invalid_holding, zero_add]
    exact accounts
  refine ⟨accounts, ?_, Pool.construct_all (idle_phase _) owned.phases constructed⟩
  intro pid
  rw [journal]
  exact owned.children pid

theorem move_construct_owned {address source : Address} (owned : Owned system)
    (stepped : System.step system (.moveConstruct address source) = some next) : Owned next := by
  simp only [System.step] at stepped
  split at stepped
  · obtain ⟨processes, constructed, rfl⟩ := Option.map_eq_some_iff.mp stepped
    obtain ⟨_, _, _, _, journal, _⟩ := Pool.construct_from_cases constructed
    have phases : processes.All Phase :=
      Pool.construct_from_all (fun _ moved => ⟨moved, idle_phase _⟩) owned.phases constructed
    have accounts : processes.Keeps holding Accounts := by
      apply Pool.construct_from_keeps _ owned.accounts constructed
      intro object rest _ accounts
      rw [invalid_holding, zero_add]
      exact accounts
    refine ⟨accounts, ?_, phases⟩
    intro pid
    rw [journal]
    exact owned.children pid
  · cases stepped

theorem child_acts_owned {pid : Pid} {change : Child → Kernel → Kernel}
    (kept : ∀ child, system.kernel.children.lookup pid = some child → ∀ other,
      other ∈ (change child system.kernel).children ↔ other ∈ system.kernel.children)
    (owned : Owned system) (stepped : system.childActs pid change = some next) : Owned next := by
  obtain ⟨child, found, _, rfl⟩ := System.child_acts_cases stepped
  refine ⟨owned.accounts, ?_, owned.phases⟩
  intro other
  rw [← owned.children]
  exact kept child found other

theorem step_owned (owned : Owned system) (stepped : System.step system action = some next) :
    Owned next := by
  cases action with
  | construct address answer =>
      cases answer with
      | ok pid => exact construct_owned owned stepped
      | error errno =>
          cases stepped
          exact ⟨owned.accounts, owned.children, owned.phases⟩
  | default address => exact default_owned owned stepped
  | moveConstruct address source => exact move_construct_owned owned stepped
  | moveAssign target source => exact swap_owned owned stepped
  | swap first second => exact swap_owned owned stepped
  | begin address call => exact act_owned begin_sound owned stepped
  | waited address answer => exact act_owned waited_sound owned stepped
  | polled address answer => exact act_owned polled_sound owned stepped
  | killed address answer => exact act_owned killed_sound owned stepped
  | collect address answer => exact act_owned collect_sound owned stepped
  | write pid toErr bytes =>
      exact child_acts_owned (fun _ _ _ => Iff.rfl) owned stepped
  | exit pid statLoc =>
      apply child_acts_owned _ owned stepped
      intro child found other
      have known : pid ∈ system.kernel.children := AList.lookup_isSome.mp (by rw [found]; rfl)
      rw [Kernel.addChild, AList.mem_insert]
      exact or_iff_right_of_imp fun same => same ▸ known

theorem start_owned : Owned System.start where
  accounts := ⟨⟨0, linear_empty, .inl rfl⟩, trivial⟩
  children := by
    intro pid
    exact iff_of_false (AList.notMem_empty pid) (Multiset.notMem_zero pid)
  phases := by
    intro address object found
    have absent : (∅ : Store Address Object).lookup address = none := AList.lookup_empty address
    rw [show System.start.processes.store = ∅ from rfl, absent] at found
    cases found

theorem run_owned {actions : List System.Action} {finish : System}
    (executed : run System.step System.start actions = some finish) : Owned finish :=
  run_invariant Owned (fun _ _ _ => step_owned) start_owned executed

theorem forked_of_takes {pid : Pid} {event : ProcessEvent} (takes : event.effect = .takes pid) :
    event = .forked pid := by
  cases event with
  | forked other =>
      cases takes
      rfl
  | waited other noHang answer =>
      rcases answer with errno | _ | statLoc <;> cases takes
  | killed other answer => cases takes
  | returned process => cases takes

theorem waited_of_returns {pid : Pid} {event : ProcessEvent}
    (returns : event.effect = .returns pid) :
    ∃ noHang statLoc, event = .waited pid noHang (.ok (some statLoc)) := by
  cases event with
  | forked other => cases returns
  | waited other noHang answer =>
      rcases answer with errno | _ | statLoc
      · cases returns
      · cases returns
      · cases returns
        exact ⟨noHang, statLoc, rfl⟩
  | killed other answer => cases returns
  | returned process => cases returns

theorem owned_reaped_in_turn (owned : Owned system) :
    ReapedInTurn system.processes.journal := by
  intro pid later middle earlier first second one two split
  obtain ⟨lost, linear, _⟩ := owned.accounts.linear
  obtain ⟨event, member, takes⟩ :=
    taken_between_returns linear.honest linear.exclusive split rfl rfl
  rw [← forked_of_takes takes]
  exact member

theorem owned_distinct_pids (owned : Owned system) : DistinctPids system := by
  intro first second one two foundFirst foundSecond lacksFirst lacksSecond valid same
  obtain ⟨lost, linear, _⟩ := owned.accounts.linear
  have nodup : (held holding system.processes.store).Nodup := by
    have all : (held holding system.processes.store + lost).Nodup := by
      rw [linear.balanced]
      exact outstanding_nodup linear.exclusive
    exact (Multiset.nodup_add.mp all).1
  have ownsFirst : one.process.pid_ ∈ holding one := by
    rw [holding_owner valid lacksFirst]
    exact Multiset.mem_singleton_self _
  have ownsSecond : one.process.pid_ ∈ holding two := by
    rw [same] at valid ⊢
    rw [holding_owner valid lacksSecond]
    exact Multiset.mem_singleton_self _
  exact holder_unique nodup foundFirst foundSecond ownsFirst ownsSecond

theorem owned_all_reaped (owned : Owned system) (empty : system.processes.store = ∅)
    (unfailed : ∀ event ∈ system.processes.journal, ¬event.FailedWait) :
    AllReaped system.processes.journal := by
  intro later pid earlier split
  obtain ⟨lost, linear, excused⟩ := owned.accounts.linear
  have none : lost = 0 := by
    rcases excused with none | ⟨event, member, failed⟩
    · exact none
    · exact absurd failed (unfailed event member)
  have balanced := linear.balanced
  rw [empty, none, held_empty, add_zero, split] at balanced
  have present : pid ∈ outstanding effect (.forked pid :: earlier) := by
    have taken : outstanding effect (.forked pid :: earlier) =
        pid ::ₘ outstanding effect earlier := outstanding_takes rfl
    rw [taken]
    exact Multiset.mem_cons_self _ _
  have absent : pid ∉ outstanding effect (later ++ .forked pid :: earlier) := by
    rw [← balanced]
    exact Multiset.notMem_zero pid
  obtain ⟨event, member, returns⟩ := returned_of_absent present absent
  obtain ⟨noHang, statLoc, rfl⟩ := waited_of_returns returns
  exact ⟨noHang, statLoc, member⟩

/-- In every run. A `kill` that fails is ignored, so only a failing `waitpid` can
leave a child behind. -/
theorem pids_owned {actions : List System.Action} {finish : System}
    (executed : run System.step System.start actions = some finish) :
    Named finish.processes.journal ∧ ReapedInTurn finish.processes.journal ∧
      DistinctPids finish ∧
      (finish.processes.store = ∅ →
        (∀ event ∈ finish.processes.journal, ¬event.FailedWait) →
          AllReaped finish.processes.journal) := by
  have owned := run_owned executed
  exact ⟨owned.accounts.named, owned_reaped_in_turn owned, owned_distinct_pids owned,
    owned_all_reaped owned⟩

/-- A value is moved and waited for, with an interrupted call, and its files cannot
be read; the pid is used again for a child that is stopped by a destructor. -/
theorem pids_owned_reused_pid :
    let actions : List System.Action :=
      [.construct 0 (.ok 10), .default 1, .moveAssign 1 0, .begin 1 .poll, .polled 1 (.ok none),
        .begin 1 .wait, .waited 1 (.error EINTR), .exit 10 0, .waited 1 (.ok 0),
        .collect 1 (.error 5), .construct 2 (.ok 10), .begin 2 .destroy, .polled 2 (.ok none),
        .killed 2 (.ok ()), .exit 10 9, .waited 2 (.ok 9), .collect 2 (.ok ()),
        .collect 2 (.error 5), .begin 1 .destroy, .begin 0 .destroy]
    let finish : System :=
      { processes :=
          { store := ∅
            journal := [.waited 10 false (.ok (some 9)), .killed 10 (.ok ()),
              .waited 10 true (.ok none), .forked 10, .waited 10 false (.ok (some 0)),
              .waited 10 false (.error EINTR),
              .returned { in_ := 0, out_ := 1, err_ := 2, pid_ := 10 },
              .waited 10 true (.ok none), .forked 10] }
        kernel := { children := ∅, contents := fun _ => [], removed := ∅, fresh := 9 } }
    run System.step System.start actions = some finish ∧
      Named finish.processes.journal ∧ ReapedInTurn finish.processes.journal ∧
      DistinctPids finish ∧
      (finish.processes.store = ∅ →
        (∀ event ∈ finish.processes.journal, ¬event.FailedWait) →
          AllReaped finish.processes.journal) := by
  intro actions finish
  have executed : run System.step System.start actions = some finish := by rfl
  exact ⟨executed, pids_owned executed⟩

end Programs

end ContestSystem.Execution
