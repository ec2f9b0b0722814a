import Mathlib.Logic.Function.Basic
import ContestSystem.Cgroup.SystemInfo
import ContestSystem.Lib.GradualRead
import ContestSystem.Lib.Run

/-!
# The shared `SystemInfo`

`SystemInfo::instance` loads the pointer the threads share, constructs a new
`SystemInfo` where it is null or an update is forced, and stores the new one. Calls of
several threads interleave, and the files change between and during them. The kernel
renders `/proc/self/cgroup` at one read, but `/proc/mounts` piece by piece, so that a
table that changes meanwhile may be joined from parts of several versions. `archive`
keeps the contents the files have had, by which a result is dated.
-/

namespace ContestSystem.Cgroup.SystemInfoInstance

open ContestSystem.Lib.GradualRead ContestSystem.Lib.Run ContestSystem.Lib.Unordered

set_option autoImplicit false

/-- What loading `/proc/self/cgroup` yields, which fails without an error of this library,
and the lines of `/proc/mounts` where it can be opened. -/
structure Files where
  cgroup : Option (List ProcPidCgroupEntry)
  mounts : Option (List MountEntry)

abbrev InstanceError := Option SystemInfoError

def readHierarchies (order : HashOrder String) (files : Files) : Except InstanceError SystemInfo :=
  match files.cgroup with
  | none => .error none
  | some cgroup => (SystemInfo.loadHierarchies order cgroup SystemInfo.empty).mapError some

/-- A constructed `SystemInfo` and the versions it was read from: the mount table from
`mountpoints` to `finished`, where `broken` tells that a read(2) has failed. -/
structure Snapshot where
  info : SystemInfo
  hierarchies : Nat
  mountpoints : Nat
  finished : Nat
  broken : Bool

/-- What `Fstab::load` has read: the last piece ended at `position` in the version `last`. -/
structure Fstab where
  entries : List MountEntry
  opened : Nat
  last : Nat
  position : Nat

inductive Control
  | load
  | hierarchies
  | setmntent (info : SystemInfo) (hierarchies : Nat)
  | getmntent (info : SystemInfo) (hierarchies : Nat) (fstab : Fstab)
  | store (systemInfo : Snapshot)
  | returned (systemInfo : Snapshot)
  | thrown (error : InstanceError)

/-- A call of `instance`; `began` is the version at its beginning. -/
structure Call where
  forceUpdate : Bool
  began : Nat
  control : Control

structure State where
  archive : Nat → Files
  version : Nat
  instance_ : Option Snapshot
  calls : Nat → Option Call

/-- `read` and `readFails` are what a read(2) of `/proc/mounts` does. -/
inductive Action
  | outside (files : Files)
  | begin (call : Nat) (forceUpdate : Bool)
  | step (call : Nat)
  | read (call position count : Nat)
  | readFails (call : Nat)

def mountsOf (archive : Nat → Files) (version : Nat) : Option (List MountEntry) :=
  (archive version).mounts

namespace State

def files (state : State) : Files := state.archive state.version

def put (state : State) (id : Nat) (call : Call) (control : Control) : State :=
  { state with
    calls := Function.update state.calls id (some { call with control := control }) }

/-- The loop of `loadMountpoints` over what has been read. -/
def loadMountpoints (order : HashOrder String) (state : State) (id : Nat) (call : Call)
    (info : SystemInfo) (hierarchies : Nat) (fstab : Fstab) (finished : Nat) (broken : Bool) :
    State :=
  match SystemInfo.loadMountpoints order fstab.entries info with
  | .error error => state.put id call (.thrown (some error))
  | .ok info =>
      state.put id call (.store
        { info := info, hierarchies := hierarchies, mountpoints := fstab.opened,
          finished := finished, broken := broken })

def advance (order : HashOrder String) (state : State) (id : Nat) (call : Call) : Option State :=
  match call.control with
  | .load =>
      match state.instance_ with
      | none => some (state.put id call .hierarchies)
      | some systemInfo =>
          if call.forceUpdate then some (state.put id call .hierarchies)
          else some (state.put id call (.returned systemInfo))
  | .hierarchies =>
      match readHierarchies order state.files with
      | .error error => some (state.put id call (.thrown error))
      | .ok info => some (state.put id call (.setmntent info state.version))
  | .setmntent info hierarchies =>
      match state.files.mounts with
      | none => some (state.put id call (.thrown none))
      | some _ =>
          some (state.put id call (.getmntent info hierarchies
            { entries := [], opened := state.version, last := state.version, position := 0 }))
  | .getmntent _ _ _ => none
  | .store systemInfo =>
      some { state.put id call (.returned systemInfo) with instance_ := some systemInfo }
  | .returned _ => none
  | .thrown _ => none

/-- The kernel goes on where it stopped unless the table has changed; nothing more is the end
of the file. -/
def read (order : HashOrder String) (state : State) (id position count : Nat) (call : Call) :
    Option State :=
  match call.control, state.files.mounts with
  | .getmntent info hierarchies fstab, some mounts =>
      if 0 < count ∧ (fstab.position = 0 ∨
          Unchanged (mountsOf state.archive) fstab.last state.version →
            position = fstab.position) then
        match (mounts.drop position).take count with
        | [] =>
            some (state.loadMountpoints order id call info hierarchies fstab state.version false)
        | entry :: more =>
            some (state.put id call (.getmntent info hierarchies
              { fstab with
                entries := fstab.entries ++ entry :: more
                last := state.version
                position := position + (entry :: more).length }))
      else none
  | _, _ => none

/-- `getmntent_r` answers a failed read(2) as it answers the end of the file. -/
def readFails (order : HashOrder String) (state : State) (id : Nat) (call : Call) :
    Option State :=
  match call.control with
  | .getmntent info hierarchies fstab =>
      some (state.loadMountpoints order id call info hierarchies fstab fstab.last true)
  | _ => none

def step (order : HashOrder String) (state : State) : Action → Option State
  | .outside files =>
      some { state with
        archive := Function.update state.archive (state.version + 1) files
        version := state.version + 1 }
  | .begin id forceUpdate =>
      match state.calls id with
      | some _ => none
      | none =>
          some { state with
            calls := Function.update state.calls id
              (some { forceUpdate := forceUpdate, began := state.version, control := .load }) }
  | .step id => (state.calls id).bind (state.advance order id)
  | .read id position count => (state.calls id).bind (state.read order id position count)
  | .readFails id => (state.calls id).bind (state.readFails order id)

end State

def start (files : Files) : State :=
  { archive := fun _ => files, version := 0, instance_ := none, calls := fun _ => none }

section Invariants

variable {order : HashOrder String} {state next : State} {archive : Nat → Files} {version : Nat}

/-- The constructor has read the first file in the version `hierarchies` and the second one
piece by piece from the version `mountpoints`, not before, to the version `finished`; it has all
of it where the table did not change meanwhile and no read failed. -/
structure Read (order : HashOrder String) (archive : Nat → Files) (version : Nat)
    (systemInfo : Snapshot) : Prop where
  ordered : systemInfo.hierarchies ≤ systemInfo.mountpoints
  past : systemInfo.finished ≤ version
  built : ∃ info entries position,
    readHierarchies order (archive systemInfo.hierarchies) = .ok info ∧
    Gathered (mountsOf archive) systemInfo.mountpoints systemInfo.finished position entries ∧
    SystemInfo.loadMountpoints order entries info = .ok systemInfo.info ∧
    (systemInfo.broken = false →
      Unchanged (mountsOf archive) systemInfo.mountpoints systemInfo.finished →
        mountsOf archive systemInfo.mountpoints = some entries)

theorem read_past {systemInfo : Snapshot} (read : Read order archive version systemInfo) :
    systemInfo.hierarchies ≤ version := by
  obtain ⟨_, _, _, _, gathered, _⟩ := read.built
  exact read.ordered.trans ((opened_le gathered).trans read.past)

/-- What a call has read belongs to the archive, and nothing a call read itself
is older than the call. -/
def Dated (order : HashOrder String) (archive : Nat → Files) (version : Nat) (call : Call) : Prop :=
  match call.control with
  | .load => True
  | .hierarchies => True
  | .setmntent info hierarchies =>
      call.began ≤ hierarchies ∧ hierarchies ≤ version ∧
        readHierarchies order (archive hierarchies) = .ok info
  | .getmntent info hierarchies fstab =>
      call.began ≤ hierarchies ∧ hierarchies ≤ fstab.opened ∧ fstab.last ≤ version ∧
        readHierarchies order (archive hierarchies) = .ok info ∧
        Gathered (mountsOf archive) fstab.opened fstab.last fstab.position fstab.entries
  | .store systemInfo =>
      call.began ≤ systemInfo.hierarchies ∧ Read order archive version systemInfo
  | .returned systemInfo =>
      (call.forceUpdate = true → call.began ≤ systemInfo.hierarchies) ∧
        Read order archive version systemInfo
  | .thrown _ => True

structure Sound (order : HashOrder String) (state : State) : Prop where
  published : ∀ systemInfo, state.instance_ = some systemInfo →
    Read order state.archive state.version systemInfo
  began : ∀ id call, state.calls id = some call → call.began ≤ state.version
  dated : ∀ id call, state.calls id = some call → Dated order state.archive state.version call

theorem archived (files : Files) {old : Nat} (past : old ≤ version) :
    Function.update archive (version + 1) files old = archive old :=
  Function.update_of_ne (Nat.ne_of_lt (Nat.lt_succ_of_le past)) files archive

theorem mounts_archived (files : Files) {old : Nat} (past : old ≤ version) :
    mountsOf (Function.update archive (version + 1) files) old = mountsOf archive old := by
  rw [mountsOf, archived files past]
  rfl

theorem gathered_later {opened last position : Nat} {entries : List MountEntry}
    (gathered : Gathered (mountsOf archive) opened last position entries) (past : last ≤ version)
    (files : Files) :
    Gathered (mountsOf (Function.update archive (version + 1) files)) opened last position
      entries :=
  gathered_congr gathered fun _ upper => mounts_archived files (upper.trans past)

theorem read_later {systemInfo : Snapshot} (read : Read order archive version systemInfo)
    (files : Files) :
    Read order (Function.update archive (version + 1) files) (version + 1) systemInfo := by
  have reads := read_past read
  rcases read with ⟨ordered, past, info, entries, position, first, gathered, loaded, whole⟩
  refine ⟨ordered, Nat.le_succ_of_le past, info, entries, position, ?_,
    gathered_later gathered past files, loaded, ?_⟩
  · rw [archived files reads]
    exact first
  · intro sound unchanged
    have opened := (opened_le gathered).trans past
    rw [mounts_archived files opened]
    apply whole sound
    intro old upper lower
    have same := unchanged old upper lower
    rwa [mounts_archived files (upper.trans past), mounts_archived files opened] at same

theorem dated_later {call : Call} (dated : Dated order archive version call) (files : Files) :
    Dated order (Function.update archive (version + 1) files) (version + 1) call := by
  cases at_ : call.control with
  | load => simp only [Dated, at_]
  | hierarchies => simp only [Dated, at_]
  | thrown error => simp only [Dated, at_]
  | setmntent info hierarchies =>
      simp only [Dated, at_] at dated ⊢
      rw [archived files dated.2.1]
      exact ⟨dated.1, Nat.le_succ_of_le dated.2.1, dated.2.2⟩
  | getmntent info hierarchies fstab =>
      simp only [Dated, at_] at dated ⊢
      obtain ⟨notOlder, ordered, past, first, gathered⟩ := dated
      rw [archived files (ordered.trans ((opened_le gathered).trans past))]
      exact ⟨notOlder, ordered, Nat.le_succ_of_le past, first, gathered_later gathered past files⟩
  | store systemInfo =>
      simp only [Dated, at_] at dated ⊢
      exact ⟨dated.1, read_later dated.2 files⟩
  | returned systemInfo =>
      simp only [Dated, at_] at dated ⊢
      exact ⟨dated.1, read_later dated.2 files⟩

theorem sound_put (sound : Sound order state) {id : Nat} {call : Call} {control : Control}
    (began : call.began ≤ state.version)
    (dated : Dated order state.archive state.version { call with control := control })
    {instance_ : Option Snapshot}
    (published : ∀ systemInfo, instance_ = some systemInfo →
      Read order state.archive state.version systemInfo) :
    Sound order { state.put id call control with instance_ := instance_ } := by
  constructor
  · exact published
  · intro other later present
    simp only [State.put, Function.update_apply] at present
    split at present
    next same =>
        cases present
        exact began
    next => exact sound.began other later present
  · intro other later present
    simp only [State.put, Function.update_apply] at present
    split at present
    next same =>
        cases present
        exact dated
    next => exact sound.dated other later present

/-- `Fstab::load` is over: at the end of the file, or at a read that failed. -/
structure Ended (state : State) (fstab : Fstab) (finished : Nat) (broken : Bool) : Prop where
  past : fstab.last ≤ state.version → finished ≤ state.version
  gathered : ∀ opened, Gathered (mountsOf state.archive) opened fstab.last fstab.position
    fstab.entries → fstab.last ≤ state.version →
      ∃ position, Gathered (mountsOf state.archive) opened finished position fstab.entries ∧
        (broken = false → Unchanged (mountsOf state.archive) opened finished →
          mountsOf state.archive opened = some fstab.entries)

/-- What a call that goes on can do. -/
inductive Advanced (order : HashOrder String) (state : State) (id : Nat) (call : Call) :
    State → Prop
  | loaded (at_ : call.control = .load) (plain : call.forceUpdate = false)
      (systemInfo : Snapshot) (published : state.instance_ = some systemInfo) :
      Advanced order state id call (state.put id call (.returned systemInfo))
  | constructs (at_ : call.control = .load)
      (needed : state.instance_ = none ∨ call.forceUpdate = true) :
      Advanced order state id call (state.put id call .hierarchies)
  | readFirst (at_ : call.control = .hierarchies) (info : SystemInfo)
      (read : readHierarchies order state.files = .ok info) :
      Advanced order state id call (state.put id call (.setmntent info state.version))
  | opened (info : SystemInfo) (hierarchies : Nat)
      (at_ : call.control = .setmntent info hierarchies) :
      Advanced order state id call (state.put id call (.getmntent info hierarchies
        { entries := [], opened := state.version, last := state.version, position := 0 }))
  | readPart (info : SystemInfo) (hierarchies : Nat) (fstab : Fstab)
      (at_ : call.control = .getmntent info hierarchies fstab) (later : Fstab)
      (same : later.opened = fstab.opened) (now : later.last = state.version)
      (gathered : ∀ opened, Gathered (mountsOf state.archive) opened fstab.last fstab.position
        fstab.entries → fstab.last ≤ state.version →
          Gathered (mountsOf state.archive) opened later.last later.position later.entries) :
      Advanced order state id call (state.put id call (.getmntent info hierarchies later))
  | readSecond (before : SystemInfo) (hierarchies : Nat) (fstab : Fstab)
      (at_ : call.control = .getmntent before hierarchies fstab) (info : SystemInfo)
      (loaded : SystemInfo.loadMountpoints order fstab.entries before = .ok info)
      (finished : Nat) (broken : Bool) (ended : Ended state fstab finished broken) :
      Advanced order state id call (state.put id call (.store
        { info := info, hierarchies := hierarchies, mountpoints := fstab.opened,
          finished := finished, broken := broken }))
  | failed (reading : call.control = .hierarchies ∨
        (∃ before hierarchies, call.control = .setmntent before hierarchies) ∨
        ∃ before hierarchies fstab, call.control = .getmntent before hierarchies fstab)
      (error : InstanceError) :
      Advanced order state id call (state.put id call (.thrown error))
  | stored (systemInfo : Snapshot) (at_ : call.control = .store systemInfo) :
      Advanced order state id call
        { state.put id call (.returned systemInfo) with instance_ := some systemInfo }

theorem advance_cases {id : Nat} {call : Call}
    (advanced : state.advance order id call = some next) :
    Advanced order state id call next := by
  unfold State.advance at advanced
  cases at_ : call.control with
  | load =>
      simp only [at_] at advanced
      cases published : state.instance_ with
      | none =>
          simp only [published] at advanced
          cases advanced
          exact .constructs at_ (.inl published)
      | some systemInfo =>
          simp only [published] at advanced
          split at advanced
          next forced =>
              cases advanced
              exact .constructs at_ (.inr forced)
          next plain =>
              cases advanced
              exact .loaded at_ (by simpa using plain) systemInfo published
  | hierarchies =>
      simp only [at_] at advanced
      split at advanced
      next error _ =>
          cases advanced
          exact .failed (.inl at_) error
      next info read =>
          cases advanced
          exact .readFirst at_ info read
  | setmntent info hierarchies =>
      simp only [at_] at advanced
      split at advanced
      next =>
          cases advanced
          exact .failed (.inr (.inl ⟨info, hierarchies, at_⟩)) none
      next =>
          cases advanced
          exact .opened info hierarchies at_
  | getmntent info hierarchies fstab =>
      simp only [at_] at advanced
      cases advanced
  | store systemInfo =>
      simp only [at_] at advanced
      cases advanced
      exact .stored systemInfo at_
  | returned systemInfo =>
      simp only [at_] at advanced
      cases advanced
  | thrown error =>
      simp only [at_] at advanced
      cases advanced

theorem load_mountpoints_cases {id : Nat} {call : Call} {info : SystemInfo} {hierarchies : Nat}
    {fstab : Fstab} (at_ : call.control = .getmntent info hierarchies fstab) {finished : Nat}
    {broken : Bool} (ended : Ended state fstab finished broken) :
    Advanced order state id call
      (state.loadMountpoints order id call info hierarchies fstab finished broken) := by
  unfold State.loadMountpoints
  split
  next error _ => exact .failed (.inr (.inr ⟨info, hierarchies, fstab, at_⟩)) (some error)
  next after loaded => exact .readSecond info hierarchies fstab at_ after loaded _ _ ended

/-- The table that is read at its end is whole if it is the one that was opened. -/
theorem ended_at_end {fstab : Fstab} {mounts : List MountEntry} {position count : Nat}
    (present : state.files.mounts = some mounts) (some_ : 0 < count)
    (goesOn : fstab.position = 0 ∨
      Unchanged (mountsOf state.archive) fstab.last state.version → position = fstab.position)
    (nothing : (mounts.drop position).take count = []) :
    Ended state fstab state.version false := by
  refine ⟨fun _ => Nat.le_refl _, fun opened gathered past => ?_⟩
  have whole := Gathered.piece gathered count past present goesOn
  rw [nothing, List.append_nil] at whole
  refine ⟨_, whole, fun _ unchanged => ?_⟩
  have behind : mounts.length ≤ position := by
    rcases List.take_eq_nil_iff.mp nothing with zero | empty
    · omega
    · exact List.drop_eq_nil_iff.mp empty
  have held : mountsOf state.archive opened = some mounts := by
    rw [← unchanged state.version (Nat.le_refl _) (opened_le whole)]
    exact present
  rw [held, gathered_whole whole held unchanged (behind.trans (Nat.le_add_right _ _))]

theorem read_cases {id position count : Nat} {call : Call}
    (advanced : state.read order id position count call = some next) :
    Advanced order state id call next := by
  unfold State.read at advanced
  split at advanced
  next info hierarchies fstab mounts at_ present =>
      split at advanced
      next possible =>
          split at advanced
          next nothing =>
              cases advanced
              exact load_mountpoints_cases at_
                (ended_at_end present possible.1 possible.2 nothing)
          next entry more piece =>
              cases advanced
              refine .readPart info hierarchies fstab at_ _ rfl rfl fun opened gathered past => ?_
              have longer := Gathered.piece gathered count past present possible.2
              rw [piece] at longer
              exact longer
      next => cases advanced
  next => cases advanced

theorem read_fails_cases {id : Nat} {call : Call}
    (advanced : state.readFails order id call = some next) :
    Advanced order state id call next := by
  unfold State.readFails at advanced
  split at advanced
  next info hierarchies fstab at_ =>
      cases advanced
      refine load_mountpoints_cases at_ ⟨fun past => past, fun opened gathered _ => ?_⟩
      exact ⟨_, gathered, nofun⟩
  next => cases advanced

/-- What a call does itself, reads of the mount table included. -/
def Action.OfCall (id : Nat) : Action → Prop
  | .outside _ => False
  | .begin _ _ => False
  | .step call => call = id
  | .read call _ _ => call = id
  | .readFails call => call = id

/-- What an action can do. -/
inductive Moved (order : HashOrder String) (state : State) : Action → State → Prop
  | outside (files : Files) :
      Moved order state (.outside files)
        { state with
          archive := Function.update state.archive (state.version + 1) files
          version := state.version + 1 }
  | begun (id : Nat) (call : Call) (now : call.began = state.version) :
      Moved order state (.begin id call.forceUpdate) (state.put id call .load)
  | advanced (action : Action) (id : Nat) (own : action.OfCall id) (call : Call)
      (found : state.calls id = some call)
      (loads : call.control = .load → action = .step id) {next : State}
      (advanced : Advanced order state id call next) : Moved order state action next

theorem step_cases {action : Action} (stepped : state.step order action = some next) :
    Moved order state action next := by
  cases action with
  | outside files =>
      cases stepped
      exact .outside files
  | begin id forceUpdate =>
      rw [State.step] at stepped
      split at stepped
      next => cases stepped
      next =>
          cases stepped
          exact .begun id ⟨forceUpdate, state.version, .load⟩ rfl
  | step id =>
      rcases Option.bind_eq_some_iff.mp stepped with ⟨call, found, advanced⟩
      exact .advanced (.step id) id rfl call found (fun _ => rfl) (advance_cases advanced)
  | read id position count =>
      rcases Option.bind_eq_some_iff.mp stepped with ⟨call, found, advanced⟩
      refine .advanced (.read id position count) id rfl call found (fun at_ => ?_)
        (read_cases advanced)
      simp [State.read, at_] at advanced
  | readFails id =>
      rcases Option.bind_eq_some_iff.mp stepped with ⟨call, found, advanced⟩
      refine .advanced (.readFails id) id rfl call found (fun at_ => ?_) (read_fails_cases advanced)
      simp [State.readFails, at_] at advanced

theorem advanced_sound (sound : Sound order state) {id : Nat} {call : Call}
    (found : state.calls id = some call) (advanced : Advanced order state id call next) :
    Sound order next := by
  have dated := sound.dated id call found
  have began := sound.began id call found
  cases advanced with
  | loaded at_ plain systemInfo published =>
      refine sound_put sound began ?_ sound.published
      refine ⟨fun forced => ?_, sound.published systemInfo published⟩
      rw [plain] at forced
      cases forced
  | constructs at_ needed =>
      refine sound_put sound began ?_ sound.published
      trivial
  | readFirst at_ info read =>
      refine sound_put sound began ?_ sound.published
      exact ⟨began, Nat.le_refl _, read⟩
  | opened info hierarchies at_ =>
      simp only [Dated, at_] at dated
      refine sound_put sound began ?_ sound.published
      exact ⟨dated.1, dated.2.1, Nat.le_refl _, dated.2.2, .opened⟩
  | readPart info hierarchies fstab at_ later same now gathered =>
      simp only [Dated, at_] at dated
      obtain ⟨notOlder, ordered, past, first, soFar⟩ := dated
      refine sound_put sound began ?_ sound.published
      refine ⟨notOlder, same ▸ ordered, now.le, first, ?_⟩
      rw [same]
      exact gathered fstab.opened soFar past
  | readSecond before hierarchies fstab at_ info loaded finished broken ended =>
      simp only [Dated, at_] at dated
      obtain ⟨notOlder, ordered, past, first, soFar⟩ := dated
      obtain ⟨position, gathered, whole⟩ := ended.gathered fstab.opened soFar past
      refine sound_put sound began ?_ sound.published
      exact ⟨notOlder, ordered, ended.past past, before, fstab.entries, position, first, gathered,
        loaded, whole⟩
  | failed reading error =>
      refine sound_put sound began ?_ sound.published
      trivial
  | stored systemInfo at_ =>
      simp only [Dated, at_] at dated
      refine sound_put sound began ?_ ?_
      · exact ⟨fun _ => dated.1, dated.2⟩
      · intro other same
        cases same
        exact dated.2

theorem step_sound (sound : Sound order state) {action : Action}
    (stepped : state.step order action = some next) : Sound order next := by
  cases step_cases stepped with
  | outside files =>
      constructor
      · exact fun systemInfo published => read_later (sound.published systemInfo published) files
      · exact fun id call found => Nat.le_succ_of_le (sound.began id call found)
      · exact fun id call found => dated_later (sound.dated id call found) files
  | begun id call now =>
      refine sound_put sound now.le ?_ sound.published
      trivial
  | advanced _ id own call found loads advanced => exact advanced_sound sound found advanced

theorem start_sound (order : HashOrder String) (files : Files) : Sound order (start files) := by
  constructor
  · intro systemInfo published
    cases published
  · intro id call found
    cases found
  · intro id call found
    cases found

theorem run_sound {files : Files} {actions : List Action}
    (executed : run (State.step order) (start files) actions = some state) : Sound order state :=
  run_invariant (Sound order) (fun _ _ _ sound stepped => step_sound sound stepped)
    (start_sound order files) executed

/-- A call without an update that found something published asks for no files. -/
structure Settled (known : Nat → Prop) (state : State) : Prop where
  published : state.instance_ ≠ none
  calls : ∀ id call, state.calls id = some call → ¬known id → call.forceUpdate = false →
    call.control = .load ∨ ∃ systemInfo, call.control = .returned systemInfo

theorem settled_put {known : Nat → Prop} (settled : Settled known state) {id : Nat} {call : Call}
    {control : Control}
    (at_ : ¬known id → call.forceUpdate = false →
      control = .load ∨ ∃ systemInfo, control = .returned systemInfo)
    {instance_ : Option Snapshot} (published : instance_ ≠ none) :
    Settled known { state.put id call control with instance_ := instance_ } := by
  refine ⟨published, ?_⟩
  intro other later present new plain
  simp only [State.put, Function.update_apply] at present
  split at present
  next same =>
      cases present
      exact at_ (same ▸ new) plain
  next => exact settled.calls other later present new plain

theorem advanced_settled {known : Nat → Prop} (settled : Settled known state) {id : Nat}
    {call : Call} (found : state.calls id = some call)
    (advanced : Advanced order state id call next) : Settled known next := by
  -- A plain call that is neither at its load nor returned began before.
  have elsewhere : ∀ {control}, call.control = control → control ≠ .load →
      (∀ systemInfo, control ≠ .returned systemInfo) → ¬known id → call.forceUpdate = false →
        False := by
    intro control at_ notLoad notReturned new plain
    rcases settled.calls id call found new plain with atLoad | ⟨systemInfo, atEnd⟩
    · exact notLoad (at_.symm.trans atLoad)
    · exact notReturned systemInfo (at_.symm.trans atEnd)
  cases advanced with
  | loaded at_ plain systemInfo published =>
      exact settled_put settled (fun _ _ => .inr ⟨systemInfo, rfl⟩) settled.published
  | constructs at_ needed =>
      refine settled_put settled (fun new plain => ?_) settled.published
      rcases needed with nothing | forced
      · exact absurd nothing settled.published
      · rw [plain] at forced
        cases forced
  | readFirst at_ info read =>
      refine settled_put settled (fun new plain => ?_) settled.published
      exact (elsewhere at_ nofun nofun new plain).elim
  | opened info hierarchies at_ =>
      refine settled_put settled (fun new plain => ?_) settled.published
      exact (elsewhere at_ nofun nofun new plain).elim
  | readPart info hierarchies fstab at_ later same now gathered =>
      refine settled_put settled (fun new plain => ?_) settled.published
      exact (elsewhere at_ nofun nofun new plain).elim
  | readSecond before hierarchies fstab at_ info loaded finished broken ended =>
      refine settled_put settled (fun new plain => ?_) settled.published
      exact (elsewhere at_ nofun nofun new plain).elim
  | failed reading error =>
      refine settled_put settled (fun new plain => ?_) settled.published
      rcases reading with at_ | ⟨before, hierarchies, at_⟩ | ⟨before, hierarchies, fstab, at_⟩
      · exact (elsewhere at_ nofun nofun new plain).elim
      · exact (elsewhere at_ nofun nofun new plain).elim
      · exact (elsewhere at_ nofun nofun new plain).elim
  | stored systemInfo at_ =>
      exact settled_put settled (fun _ _ => .inr ⟨systemInfo, rfl⟩) (by simp)

theorem step_settled {known : Nat → Prop} (settled : Settled known state) {action : Action}
    (stepped : state.step order action = some next) : Settled known next := by
  cases step_cases stepped with
  | outside files => exact ⟨settled.published, settled.calls⟩
  | begun id call now => exact settled_put settled (fun _ _ => .inl rfl) settled.published
  | advanced _ id own call found loads advanced => exact advanced_settled settled found advanced

/-- Every line of the mount table that an answer was built from was in the file while it was
read, and where the file did not change meanwhile the answer is built from the contents of one
version of each file. -/
structure Consistent (order : HashOrder String) (archive : Nat → Files) (systemInfo : Snapshot) :
    Prop where
  lines : ∃ info entries, readHierarchies order (archive systemInfo.hierarchies) = .ok info ∧
    SystemInfo.loadMountpoints order entries info = .ok systemInfo.info ∧
    ∀ entry ∈ entries, ∃ version mounts, systemInfo.mountpoints ≤ version ∧
      version ≤ systemInfo.finished ∧ (archive version).mounts = some mounts ∧ entry ∈ mounts
  whole : systemInfo.broken = false →
    Unchanged (mountsOf archive) systemInfo.mountpoints systemInfo.finished →
      ∃ cgroup mounts, (archive systemInfo.hierarchies).cgroup = some cgroup ∧
        (archive systemInfo.mountpoints).mounts = some mounts ∧
        SystemInfo.construct order cgroup mounts = .ok systemInfo.info

theorem read_hierarchies_eq_ok {files : Files} {info : SystemInfo}
    (read : readHierarchies order files = .ok info) :
    ∃ cgroup, files.cgroup = some cgroup ∧
      SystemInfo.loadHierarchies order cgroup SystemInfo.empty = .ok info := by
  unfold readHierarchies at read
  split at read
  next => cases read
  next cgroup present =>
      refine ⟨cgroup, present, ?_⟩
      cases loaded : SystemInfo.loadHierarchies order cgroup SystemInfo.empty with
      | error error =>
          rw [loaded] at read
          cases read
      | ok hierarchies =>
          rw [loaded] at read
          cases read
          rfl

theorem consistent_of_read {systemInfo : Snapshot}
    (read : Read order archive version systemInfo) : Consistent order archive systemInfo := by
  obtain ⟨info, entries, position, first, gathered, loaded, whole⟩ := read.built
  constructor
  · refine ⟨info, entries, first, loaded, fun entry inside => ?_⟩
    obtain ⟨at_, mounts, lower, upper, held, member⟩ := item_of_version gathered entry inside
    exact ⟨at_, mounts, lower, upper, held, member⟩
  · intro sound unchanged
    obtain ⟨cgroup, present, hierarchies⟩ := read_hierarchies_eq_ok first
    refine ⟨cgroup, entries, present, whole sound unchanged, ?_⟩
    rw [SystemInfo.construct, hierarchies]
    exact loaded

/-- Every answer was read from the two files, in this order, and by a forced update
after the call began. -/
structure Answers (order : HashOrder String) (state : State) : Prop where
  read : ∀ id call systemInfo, state.calls id = some call →
    call.control = .returned systemInfo →
      Read order state.archive state.version systemInfo
  consistent : ∀ id call systemInfo, state.calls id = some call →
    call.control = .returned systemInfo → Consistent order state.archive systemInfo
  updated : ∀ id call systemInfo, state.calls id = some call →
    call.control = .returned systemInfo → call.forceUpdate = true →
      call.began ≤ systemInfo.hierarchies

theorem answers_of_sound (sound : Sound order state) : Answers order state := by
  have dated : ∀ id call systemInfo, state.calls id = some call →
      call.control = .returned systemInfo →
        (call.forceUpdate = true → call.began ≤ systemInfo.hierarchies) ∧
          Read order state.archive state.version systemInfo := by
    intro id call systemInfo found at_
    have dated := sound.dated id call found
    simpa only [Dated, at_] using dated
  constructor
  · exact fun id call systemInfo found at_ => (dated id call systemInfo found at_).2
  · exact fun id call systemInfo found at_ =>
      consistent_of_read (dated id call systemInfo found at_).2
  · exact fun id call systemInfo found at_ => (dated id call systemInfo found at_).1

end Invariants

/-- In every interleaving: and once something is published, calls that begin
without an update neither read the files nor throw. -/
theorem instance_answers (order : HashOrder String) (files : Files) (earlier later : List Action)
    (middle state : State)
    (executed : run (State.step order) (start files) earlier = some middle)
    (continued : run (State.step order) middle later = some state) :
    Answers order state ∧
      (middle.instance_ ≠ none → state.instance_ ≠ none ∧
        ∀ id call, middle.calls id = none → state.calls id = some call →
          call.forceUpdate = false →
            call.control = .load ∨ ∃ systemInfo, call.control = .returned systemInfo) := by
  have whole : run (State.step order) (start files) (earlier ++ later) = some state := by
    rw [run_append, executed]
    exact continued
  refine ⟨answers_of_sound (run_sound whole), ?_⟩
  intro published
  have before : Settled (fun id => middle.calls id ≠ none) middle := by
    refine ⟨published, ?_⟩
    intro id call found new _
    exact absurd (by rw [found]; exact Option.some_ne_none call) new
  have settled : Settled (fun id => middle.calls id ≠ none) state :=
    run_invariant _ (fun _ _ _ kept stepped => step_settled kept stepped) before continued
  refine ⟨settled.published, ?_⟩
  intro id call fresh found plain
  exact settled.calls id call found (fun known => known fresh) plain

def freezerFiles : Files :=
  { cgroup := some [{ hierarchyId := 3, subsystems := ["freezer"] }]
    mounts := some [{ dir := [], type := "cgroup", opts := "rw,freezer" }] }

/-- The mount table is read in one piece, and its end by a read of its own. -/
def constructing (call : Nat) : List Action :=
  List.replicate 3 (.step call) ++ [.read call 0 16, .read call 1 16, .step call]

def firstCall : List Action := .begin 0 false :: constructing 0

def unreadable : List Action :=
  [.outside { cgroup := none, mounts := none }, .begin 1 false, .begin 2 true, .step 2, .step 2,
    .step 1]

theorem instance_answers_unreadable :
    ∃ middle state, run (State.step insertionOrder) (start freezerFiles) firstCall =
        some middle ∧
      run (State.step insertionOrder) middle unreadable = some state ∧
      Answers insertionOrder state ∧ state.instance_ ≠ none ∧
      ∀ id call, middle.calls id = none → state.calls id = some call →
        call.forceUpdate = false →
          call.control = .load ∨ ∃ systemInfo, call.control = .returned systemInfo := by
  have outcome : ((run (State.step insertionOrder) (start freezerFiles) firstCall).bind
      fun middle => (run (State.step insertionOrder) middle unreadable).map fun _ =>
        middle.instance_.isSome) = some true := by
    decide +kernel
  rcases Option.bind_eq_some_iff.mp outcome with ⟨middle, executed, rest⟩
  rcases Option.map_eq_some_iff.mp rest with ⟨state, continued, published⟩
  have answers := instance_answers insertionOrder freezerFiles firstCall unreadable middle state
    executed continued
  have settled := answers.2 (Option.isSome_iff_ne_none.mp published)
  exact ⟨middle, state, executed, continued, answers.1, settled⟩

def answer (state : State) (id : Nat) : Option Snapshot :=
  (state.calls id).bind fun call =>
    match call.control with
    | .returned systemInfo => some systemInfo
    | _ => none

def twoMounts (dir : Directory) : Files :=
  { cgroup := some [{ hierarchyId := 3, subsystems := ["freezer"] },
      { hierarchyId := 7, subsystems := ["cpu"] }]
    mounts := some [{ dir := dir, type := "cgroup", opts := "rw,freezer" },
      { dir := dir, type := "cgroup", opts := "rw,cpu" }] }

def media : Component := { text := "media", slashFree := by decide }

def overtakenRead : List Action :=
  .begin 0 false :: List.replicate 3 (.step 0) ++ [.read 0 0 1, .outside (twoMounts [media]),
    .read 0 1 16, .read 0 2 16, .step 0]

/-- The answer comes from neither table. -/
example :
    ((run (State.step insertionOrder) (start (twoMounts [])) overtakenRead).bind fun state =>
      answer state 0).map (fun systemInfo => [3, 7].map fun id =>
        (systemInfo.info.id2hierarchy_.lookup id).bind HierarchyInfo.mountpoint) =
      some [some [], some [media]] := by
  decide +kernel

def Control.Constructing : Control → Prop
  | .load => False
  | .hierarchies => True
  | .setmntent _ _ => True
  | .getmntent _ _ _ => True
  | .store _ => True
  | .returned _ => False
  | .thrown _ => False

instance (control : Control) : Decidable control.Constructing := by
  cases control <;> unfold Control.Constructing <;> infer_instance

/-- A construction begins only where no other is going on. -/
def Serial (state : State) : Action → Prop
  | .step id => ∀ call, state.calls id = some call → call.control = .load →
      (state.instance_ = none ∨ call.forceUpdate = true) →
        ∀ other later, state.calls other = some later → ¬later.control.Constructing
  | _ => True

section Serialised

variable {order : HashOrder String} {state next : State}

def Control.reading : Control → Option Nat
  | .setmntent _ first => some first
  | .getmntent _ first _ => some first
  | .store systemInfo => some systemInfo.hierarchies
  | _ => none

structure InTurn (state : State) : Prop where
  alone : ∀ id other call later, state.calls id = some call → state.calls other = some later →
    call.control.Constructing → later.control.Constructing → id = other
  newer : ∀ id call reading systemInfo, state.calls id = some call →
    call.control.reading = some reading → state.instance_ = some systemInfo →
      systemInfo.hierarchies ≤ reading
  answered : ∀ id call systemInfo, state.calls id = some call →
    call.control = .returned systemInfo → ∃ published, state.instance_ = some published ∧
      systemInfo.hierarchies ≤ published.hierarchies

theorem constructing_of_reading {control : Control} {reading : Nat}
    (reads : control.reading = some reading) : control.Constructing := by
  cases control <;> trivial

theorem in_turn_put (inTurn : InTurn state) {id : Nat} {call : Call} {control : Control}
    (alone : control.Constructing → ∀ other later, state.calls other = some later →
      later.control.Constructing → id = other)
    (newer : ∀ reading systemInfo, control.reading = some reading →
      state.instance_ = some systemInfo → systemInfo.hierarchies ≤ reading)
    (answered : ∀ systemInfo, control = .returned systemInfo →
      state.instance_ = some systemInfo) :
    InTurn (state.put id call control) := by
  constructor
  · intro first second one two firstFound secondFound firstActive secondActive
    simp only [State.put, Function.update_apply] at firstFound secondFound
    split at firstFound
    next same =>
        cases firstFound
        split at secondFound
        next same' => rw [same, same']
        next => exact same.trans (alone firstActive second two secondFound secondActive)
    next =>
        split at secondFound
        next same' =>
            cases secondFound
            exact ((same'.trans (alone secondActive first one firstFound firstActive))).symm
        next =>
            exact inTurn.alone first second one two firstFound secondFound firstActive
              secondActive
  · intro other later reading systemInfo found reads published
    simp only [State.put, Function.update_apply] at found
    split at found
    next =>
        cases found
        exact newer reading systemInfo reads published
    next => exact inTurn.newer other later reading systemInfo found reads published
  · intro other later systemInfo found at_
    simp only [State.put, Function.update_apply] at found
    split at found
    next =>
        cases found
        exact ⟨systemInfo, answered systemInfo at_, Nat.le_refl _⟩
    next => exact inTurn.answered other later systemInfo found at_

theorem advanced_in_turn (sound : Sound order state) (inTurn : InTurn state) {id : Nat}
    {call : Call} (found : state.calls id = some call) (serial : Serial state (.step id))
    (advanced : Advanced order state id call next) : InTurn next := by
  have alone : call.control.Constructing → ∀ other later, state.calls other = some later →
      later.control.Constructing → id = other :=
    fun active other later present activeLater =>
      inTurn.alone id other call later found present active activeLater
  cases advanced with
  | loaded at_ plain systemInfo published =>
      refine in_turn_put inTurn nofun (fun _ _ reads => nomatch reads) ?_
      intro other same
      cases same
      exact published
  | constructs at_ needed =>
      refine in_turn_put inTurn ?_ (fun _ _ reads => nomatch reads) (fun _ same => nomatch same)
      intro _ other later present active
      exact absurd active (serial call found at_ needed other later present)
  | readFirst at_ info read =>
      refine in_turn_put inTurn (fun _ => alone (by rw [at_]; trivial)) ?_
        (fun _ same => nomatch same)
      intro reading systemInfo reads published
      cases reads
      exact read_past (sound.published systemInfo published)
  | opened info hierarchies at_ =>
      refine in_turn_put inTurn (fun _ => alone (by rw [at_]; trivial)) ?_
        (fun _ same => nomatch same)
      intro reading systemInfo reads published
      cases reads
      exact inTurn.newer id call hierarchies systemInfo found (by rw [at_]; rfl) published
  | readPart info hierarchies fstab at_ later same now gathered =>
      refine in_turn_put inTurn (fun _ => alone (by rw [at_]; trivial)) ?_
        (fun _ same => nomatch same)
      intro reading systemInfo reads published
      cases reads
      exact inTurn.newer id call hierarchies systemInfo found (by rw [at_]; rfl) published
  | readSecond before hierarchies fstab at_ info loaded finished broken ended =>
      refine in_turn_put inTurn (fun _ => alone (by rw [at_]; trivial)) ?_
        (fun _ same => nomatch same)
      intro reading systemInfo reads published
      cases reads
      exact inTurn.newer id call hierarchies systemInfo found (by rw [at_]; rfl) published
  | failed reading error =>
      exact in_turn_put inTurn nofun (fun _ _ reads => nomatch reads) fun _ same => nomatch same
  | stored systemInfo at_ =>
      -- No other call is constructing, so nothing older is still to be stored.
      have others : ∀ other later, state.calls other = some later → other ≠ id →
          ¬later.control.Constructing := fun other later present different active =>
        different (alone (by rw [at_]; trivial) other later present active).symm
      constructor
      · intro first second one two firstFound secondFound firstActive secondActive
        simp only [State.put, Function.update_apply] at firstFound
        split at firstFound
        next =>
            cases firstFound
            exact firstActive.elim
        next different => exact absurd firstActive (others first one firstFound different)
      · intro other later reading published present reads _
        simp only [State.put, Function.update_apply] at present
        split at present
        next =>
            cases present
            cases reads
        next different =>
            exact absurd (constructing_of_reading reads) (others other later present different)
      · intro other later returned present at_'
        simp only [State.put, Function.update_apply] at present
        split at present
        next =>
            cases present
            cases at_'
            exact ⟨systemInfo, rfl, Nat.le_refl _⟩
        next =>
            rcases inTurn.answered other later returned present at_' with
              ⟨published, before, notNewer⟩
            have stored := inTurn.newer id call systemInfo.hierarchies published found
              (by rw [at_]; rfl) before
            exact ⟨systemInfo, rfl, notNewer.trans stored⟩

theorem step_in_turn (sound : Sound order state) (inTurn : InTurn state) {action : Action}
    (serial : Serial state action) (stepped : state.step order action = some next) :
    InTurn next := by
  cases step_cases stepped with
  | outside files => exact ⟨inTurn.alone, inTurn.newer, inTurn.answered⟩
  | begun id call now =>
      exact in_turn_put inTurn nofun (fun _ _ reads => nomatch reads) fun _ same => nomatch same
  | advanced _ id own call found loads advanced =>
      refine advanced_in_turn sound inTurn found (fun other present at_ => ?_) advanced
      rw [found] at present
      cases present
      rw [loads at_] at serial
      exact serial call found at_

theorem start_in_turn (files : Files) : InTurn (start files) := by
  constructor
  · intro id other call later found
    cases found
  · intro id call reading systemInfo found
    cases found
  · intro id call systemInfo found
    cases found

/-- What is published, and what new calls have read or returned, is not older than `floor`. -/
structure Above (floor : Nat) (known : Nat → Prop) (state : State) : Prop where
  published : ∃ systemInfo, state.instance_ = some systemInfo ∧ floor ≤ systemInfo.hierarchies
  answered : ∀ id call systemInfo, state.calls id = some call → ¬known id →
    call.control = .returned systemInfo → floor ≤ systemInfo.hierarchies

theorem above_put {floor : Nat} {known : Nat → Prop} (above : Above floor known state) {id : Nat}
    {call : Call} {control : Control} {instance_ : Option Snapshot}
    (published : ∃ systemInfo, instance_ = some systemInfo ∧ floor ≤ systemInfo.hierarchies)
    (answered : ∀ systemInfo, control = .returned systemInfo → floor ≤ systemInfo.hierarchies) :
    Above floor known { state.put id call control with instance_ := instance_ } := by
  refine ⟨published, ?_⟩
  intro other later systemInfo present new at_
  simp only [State.put, Function.update_apply] at present
  split at present
  next =>
      cases present
      exact answered systemInfo at_
  next => exact above.answered other later systemInfo present new at_

theorem advanced_above {floor : Nat} {known : Nat → Prop} (inTurn : InTurn state)
    (above : Above floor known state) {id : Nat} {call : Call}
    (found : state.calls id = some call) (advanced : Advanced order state id call next) :
    Above floor known next := by
  rcases above.published with ⟨current, published, notOlder⟩
  cases advanced with
  | loaded at_ plain systemInfo loaded =>
      refine above_put above above.published fun other same => ?_
      cases same
      rw [published] at loaded
      cases loaded
      exact notOlder
  | constructs at_ needed => exact above_put above above.published fun _ same => nomatch same
  | readFirst at_ info read => exact above_put above above.published fun _ same => nomatch same
  | opened info hierarchies at_ => exact above_put above above.published fun _ same => nomatch same
  | readPart info hierarchies fstab at_ later same now gathered =>
      exact above_put above above.published fun _ same => nomatch same
  | readSecond before hierarchies fstab at_ info loaded finished broken ended =>
      exact above_put above above.published fun _ same => nomatch same
  | failed reading error => exact above_put above above.published fun _ same => nomatch same
  | stored systemInfo at_ =>
      have newer := notOlder.trans
        (inTurn.newer id call systemInfo.hierarchies current found (by rw [at_]; rfl) published)
      refine above_put above ⟨systemInfo, rfl, newer⟩ fun other same => ?_
      cases same
      exact newer

theorem step_above {floor : Nat} {known : Nat → Prop} (inTurn : InTurn state)
    (above : Above floor known state) {action : Action}
    (stepped : state.step order action = some next) : Above floor known next := by
  cases step_cases stepped with
  | outside files => exact ⟨above.published, above.answered⟩
  | begun id call now => exact above_put above above.published fun _ same => nomatch same
  | advanced _ id own call found loads advanced => exact advanced_above inTurn above found advanced

def OthersIdle (id : Nat) (state : State) : Prop :=
  ∀ other later, state.calls other = some later → other ≠ id → ¬later.control.Constructing

theorem others_idle_put {id : Nat} (idle : OthersIdle id state) {call : Call} (control : Control)
    {instance_ : Option Snapshot} :
    OthersIdle id { state.put id call control with instance_ := instance_ } := by
  intro other later present different
  simp only [State.put, Function.update_of_ne different] at present
  exact idle other later present different

theorem begun_others_idle {id : Nat} {forceUpdate : Bool} (idle : OthersIdle id state)
    (stepped : state.step order (.begin id forceUpdate) = some next) : OthersIdle id next := by
  cases step_cases stepped with
  | begun id call now => exact others_idle_put idle .load
  | advanced _ id own => exact own.elim

theorem of_call_others_idle {id : Nat} {action : Action} (own : action.OfCall id)
    (idle : OthersIdle id state) (stepped : state.step order action = some next) :
    OthersIdle id next := by
  cases step_cases stepped with
  | outside files => exact own.elim
  | begun => exact own.elim
  | advanced _ other owned call found loads advanced =>
      have same : other = id := by
        cases action <;> first | exact owned.elim | exact owned.symm.trans own
      subst same
      cases advanced <;> exact others_idle_put idle _

theorem of_call_serial {id : Nat} {action : Action} (own : action.OfCall id)
    (idle : OthersIdle id state) : Serial state action := by
  cases action with
  | outside files => exact own.elim
  | begin call forceUpdate => exact own.elim
  | read call position count => trivial
  | readFails call => trivial
  | step call =>
      cases own
      intro call found at_ _ other later present active
      by_cases same : other = id
      · rw [same, found] at present
        cases present
        rw [at_] at active
        exact active
      · exact idle other later present same active

theorem alone_guarded (order : HashOrder String) {id : Nat} (idle : OthersIdle id state)
    (actions : List Action) (own : ∀ action ∈ actions, action.OfCall id) :
    Guarded (State.step order) Serial state actions ∧
      ∀ finish, run (State.step order) state actions = some finish → OthersIdle id finish := by
  induction actions generalizing state with
  | nil =>
      refine ⟨trivial, ?_⟩
      intro finish executed
      cases executed
      exact idle
  | cons action actions ih =>
      have first := own action List.mem_cons_self
      have rest := fun other inside => own other (List.mem_cons_of_mem _ inside)
      have after : ∀ next, state.step order action = some next →
          Guarded (State.step order) Serial next actions ∧ ∀ finish,
            run (State.step order) next actions = some finish → OthersIdle id finish :=
        fun next stepped => ih (of_call_others_idle first idle stepped) rest
      refine ⟨⟨of_call_serial first idle, fun next stepped => (after next stepped).1⟩, ?_⟩
      intro finish executed
      rcases run_cons_eq_some.mp executed with ⟨next, stepped, remaining⟩
      exact (after next stepped).2 finish remaining

theorem constructing_of_call (id : Nat) : ∀ action ∈ constructing id, action.OfCall id := by
  intro action inside
  simp only [constructing, List.replicate, List.cons_append, List.nil_append, List.mem_cons,
    List.not_mem_nil, or_false] at inside
  rcases inside with rfl | rfl | rfl | rfl | rfl | rfl <;> rfl

end Serialised

/-- Where constructions do not overlap, a call never answers with older files than a
call that returned before it began. -/
theorem serial_answers_in_order (order : HashOrder String) (files : Files)
    (earlier later : List Action) (middle state : State)
    (executed : run (State.step order) (start files) earlier = some middle)
    (continued : run (State.step order) middle later = some state)
    (serial : Guarded (State.step order) Serial (start files) earlier)
    (stillSerial : Guarded (State.step order) Serial middle later)
    (id other : Nat) (call next : Call) (first second : Snapshot)
    (returned : middle.calls id = some call ∧ call.control = .returned first)
    (fresh : middle.calls other = none)
    (answered : state.calls other = some next ∧ next.control = .returned second) :
    first.hierarchies ≤ second.hierarchies := by
  have kept := guarded_invariant (fun state => Sound order state ∧ InTurn state)
    (fun _ _ _ kept guard stepped =>
      ⟨step_sound kept.1 stepped, step_in_turn kept.1 kept.2 guard stepped⟩)
    ⟨start_sound order files, start_in_turn files⟩ serial executed
  have initially : Above first.hierarchies (fun id => middle.calls id ≠ none) middle := by
    refine ⟨kept.2.answered id call first returned.1 returned.2, ?_⟩
    intro other later systemInfo found new _
    exact absurd (by rw [found]; exact Option.some_ne_none later) new
  have ended := guarded_invariant
    (fun state => (Sound order state ∧ InTurn state) ∧
      Above first.hierarchies (fun id => middle.calls id ≠ none) state)
    (fun _ _ _ kept guard stepped =>
      ⟨⟨step_sound kept.1.1 stepped, step_in_turn kept.1.1 kept.1.2 guard stepped⟩,
        step_above kept.1.2 kept.2 stepped⟩)
    ⟨kept, initially⟩ stillSerial continued
  exact ended.2.answered other next second answered.1 (fun known => known fresh) answered.2

def secondCall : List Action :=
  .outside { freezerFiles with mounts := some [] } :: .begin 1 true ::
    (List.replicate 3 (.step 1) ++ [.read 1 0 16, .step 1])

theorem answer_eq_some {state : State} {id : Nat} {systemInfo : Snapshot}
    (answered : answer state id = some systemInfo) :
    ∃ call, state.calls id = some call ∧ call.control = .returned systemInfo := by
  rcases Option.bind_eq_some_iff.mp answered with ⟨call, found, at_⟩
  refine ⟨call, found, ?_⟩
  split at at_
  next systemInfo returned =>
      cases at_
      exact returned
  next => cases at_

theorem serial_answers_in_order_two_calls :
    ∃ middle state first second,
      run (State.step insertionOrder) (start freezerFiles) firstCall = some middle ∧
      run (State.step insertionOrder) middle secondCall = some state ∧
      answer middle 0 = some first ∧ answer state 1 = some second ∧
      first.hierarchies = 0 ∧ second.hierarchies = 1 ∧
      first.hierarchies ≤ second.hierarchies := by
  have outcome : ((run (State.step insertionOrder) (start freezerFiles) firstCall).bind
      fun middle => (run (State.step insertionOrder) middle secondCall).bind fun state =>
        (answer middle 0).bind fun first => (answer state 1).map fun second =>
          ((middle.calls 1).isNone, first.hierarchies, second.hierarchies)) =
      some (true, 0, 1) := by
    decide +kernel
  rcases Option.bind_eq_some_iff.mp outcome with ⟨middle, executed, rest⟩
  rcases Option.bind_eq_some_iff.mp rest with ⟨state, continued, rest⟩
  rcases Option.bind_eq_some_iff.mp rest with ⟨first, firstAnswer, rest⟩
  rcases Option.map_eq_some_iff.mp rest with ⟨second, secondAnswer, facts⟩
  obtain ⟨fresh, old, new⟩ : (middle.calls 1).isNone = true ∧ first.hierarchies = 0 ∧
      second.hierarchies = 1 := by
    simpa using facts
  obtain ⟨call, found, returned⟩ := answer_eq_some firstAnswer
  obtain ⟨next, nextFound, nextReturned⟩ := answer_eq_some secondAnswer
  have initially : OthersIdle 0 (start freezerFiles) := by
    intro other later present
    cases present
  rcases run_cons_eq_some.mp executed with ⟨begun, began, ran⟩
  have firstAlone := alone_guarded insertionOrder (begun_others_idle initially began)
    (constructing 0) (constructing_of_call 0)
  have idle : OthersIdle 1 middle := by
    intro other later present _
    by_cases same : other = 0
    · rw [same, found] at present
      cases present
      rw [returned]
      exact not_false
    · exact firstAlone.2 middle ran other later present same
  have stillSerial : Guarded (State.step insertionOrder) Serial middle secondCall := by
    refine ⟨trivial, fun outside stepped => ⟨trivial, fun asked begins => ?_⟩⟩
    have stillIdle : OthersIdle 1 outside := by
      cases stepped
      exact idle
    exact (alone_guarded insertionOrder (begun_others_idle stillIdle begins) _
      (by simp [Action.OfCall])).1
  exact ⟨middle, state, first, second, executed, continued, firstAnswer, secondAnswer, old, new,
    serial_answers_in_order insertionOrder freezerFiles firstCall secondCall middle state executed
      continued (guarded_cons trivial began firstAlone.1) stillSerial 0 1 call next first second
      ⟨found, returned⟩ (Option.isNone_iff_eq_none.mp fresh) ⟨nextFound, nextReturned⟩⟩

end ContestSystem.Cgroup.SystemInfoInstance
