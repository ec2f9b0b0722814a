import ContestSystem.Cgroup.MultipleTrees
import ContestSystem.Cgroup.PathText
import ContestSystem.Cgroup.ProcessHierarchies

/-!
# The groups a process is in

`forPid` attaches the groups that `/proc/<pid>/cgroup` names, whose paths `boostPath`
parses. `MultipleControlGroup` reads the file anew for every hierarchy, and the process may
be moved in between, so the files read for different hierarchies are independent here.
-/

namespace ContestSystem.Cgroup

open ContestSystem.Lib.Decimal ContestSystem.Lib.Throwing ContestSystem.Lib.Unordered
open ProcPidCgroup PathText Construction

set_option autoImplicit false

inductive ProcessError
  | processInfo (error : ProcessInfoError)
  | lookup (error : ProcessLookupError)

/-- The exceptions of `ProcessInfo` among those that a call on control groups throws. -/
structure Raising where
  raise : ProcessError → Failure
  external : ∀ error, External (raise error)

abbrev Reading := Text → Except Errno Text

namespace ProcPidCgroup.ProcessInfo

def pidFile (pid : Int) : Text := ascii "/proc/" ++ integer pid ++ ascii "/cgroup"

def selfFile : Text := ascii "/proc/self/cgroup"

def forPid (read : Reading) (pid : Int) : Except ProcessInfoError ProcessInfo :=
  fromFile (pidFile pid) (read (pidFile pid))

def forSelf (read : Reading) : Except ProcessInfoError ProcessInfo :=
  fromFile selfFile (read selfFile)

end ProcPidCgroup.ProcessInfo

variable {σ : Type} (kernel : Kernel σ) (boostPath : Text → BoostPath) (raising : Raising)

namespace SingleControlGroup

def forProcessHierarchyInfo (processHierarchyInfo : ProcessHierarchyInfo) : Call σ ObjectId :=
  attach kernel processHierarchyInfo.hierarchy.id (boostPath processHierarchyInfo.controlGroup)

def forLookup : Except ProcessLookupError ProcessHierarchyInfo → Call σ ObjectId
  | .error error => throw (raising.raise (.lookup error))
  | .ok processHierarchyInfo => forProcessHierarchyInfo kernel boostPath processHierarchyInfo

def forProcessInfo (hierarchyId : Nat) (processInfo : ProcessInfo) : Call σ ObjectId := do
  let world ← get
  forLookup kernel boostPath raising (processInfo.byHierarchyId world.instance_.info hierarchyId)

def forProcessInfoOfSubsystem (subsystem : String) (processInfo : ProcessInfo) :
    Call σ ObjectId := do
  let world ← get
  forLookup kernel boostPath raising (processInfo.bySubsystem world.instance_.info subsystem)

/-- The argument of `forProcessInfo` is evaluated first. -/
def forProcess (find : ProcessInfo → Call σ ObjectId) :
    Except ProcessInfoError ProcessInfo → Call σ ObjectId
  | .error error => throw (raising.raise (.processInfo error))
  | .ok processInfo => find processInfo

def forPid (read : Reading) (hierarchyId : Nat) (pid : Int) : Call σ ObjectId :=
  forProcess raising (forProcessInfo kernel boostPath raising hierarchyId)
    (ProcessInfo.forPid read pid)

def forPidOfSubsystem (read : Reading) (subsystem : String) (pid : Int) : Call σ ObjectId :=
  forProcess raising (forProcessInfoOfSubsystem kernel boostPath raising subsystem)
    (ProcessInfo.forPid read pid)

def forSelf (read : Reading) (hierarchyId : Nat) : Call σ ObjectId :=
  forProcess raising (forProcessInfo kernel boostPath raising hierarchyId)
    (ProcessInfo.forSelf read)

def forSelfOfSubsystem (read : Reading) (subsystem : String) : Call σ ObjectId :=
  forProcess raising (forProcessInfoOfSubsystem kernel boostPath raising subsystem)
    (ProcessInfo.forSelf read)

end SingleControlGroup

namespace MultipleControlGroup

/-- `reads id` is what the files read as when the loop gets to the hierarchy. -/
def forPid (listing order : HashOrder Nat) (rehash : Rehash ObjectId) (reads : Nat → Reading)
    (pid : Int) : Call σ (MultipleControlGroup ObjectId) :=
  acquireAll kernel listing order rehash fun hierarchyId =>
    SingleControlGroup.forPid kernel boostPath raising (reads hierarchyId) hierarchyId pid

def forSelf (listing order : HashOrder Nat) (rehash : Rehash ObjectId) (reads : Nat → Reading) :
    Call σ (MultipleControlGroup ObjectId) :=
  acquireAll kernel listing order rehash fun hierarchyId =>
    SingleControlGroup.forSelf kernel boostPath raising (reads hierarchyId) hierarchyId

end MultipleControlGroup

namespace ProcessGroups

open ContestSystem.Lib.Forest ContestSystem.Lib.Run
open SingleControlGroup Registry AttachWalk Transition Population Members Refinement Trees
open ClientRun CreateRollback MultipleMembers MultipleSession MultipleRun MultipleTrees

variable {kernel : Kernel σ} {boostPath : Text → BoostPath} {raising : Raising}
  {origin : Client σ}

def named (read : Except ProcessInfoError ProcessInfo) (hierarchyId : Nat) : Option Text :=
  match read with
  | .error _ => none
  | .ok processInfo => processInfo.id2controlGroup_.lookup (UInt64.ofNat hierarchyId)

def groupAt (boostPath : Text → BoostPath) (read : Except ProcessInfoError ProcessInfo)
    (hierarchyId : Nat) : ControlGroupPath :=
  lexicalPath [] (boostPath ((named read hierarchyId).getD [])).components

theorem for_process_cases (kernel : Kernel σ) (boostPath : Text → BoostPath) (raising : Raising)
    (read : Except ProcessInfoError ProcessInfo) (id : Nat) (world : World σ) :
    (∃ error, forProcess raising (forProcessInfo kernel boostPath raising id) read world =
      .error (raising.raise error) world) ∨
    ∃ controlGroup, named read id = some controlGroup ∧
      forProcess raising (forProcessInfo kernel boostPath raising id) read world =
        attach kernel id (boostPath controlGroup) world := by
  cases read with
  | error error => exact .inl ⟨_, rfl⟩
  | ok processInfo =>
      change (∃ error, forLookup kernel boostPath raising
        (processInfo.byHierarchyId world.instance_.info id) world = _) ∨ ∃ controlGroup, _ ∧
          forLookup kernel boostPath raising
            (processInfo.byHierarchyId world.instance_.info id) world = _
      cases answered : processInfo.byHierarchyId world.instance_.info id with
      | error error => exact .inl ⟨_, rfl⟩
      | ok answer =>
          obtain ⟨found, listed⟩ := (by_hierarchy_id_answers _ _ _ _).mp answered
          have sameId : answer.hierarchy.id = id :=
            world.instance_.keyed _ _ (SystemInfo.by_hierarchy_id_eq_ok.mp found)
          rw [sameId] at listed
          refine .inr ⟨answer.controlGroup, listed, ?_⟩
          simp only [forLookup, forProcessHierarchyInfo, sameId]

theorem for_process_acquires (kernel : Kernel σ) (boostPath : Text → BoostPath)
    (raising : Raising) (reads : Nat → Except ProcessInfoError ProcessInfo) :
    Acquires kernel
      (fun id => forProcess raising (forProcessInfo kernel boostPath raising id) (reads id))
      fun id => groupAt boostPath (reads id) id := by
  constructor
  · intro id world held sound
    rcases for_process_cases kernel boostPath raising (reads id) id world with
      ⟨error, thrown⟩ | ⟨controlGroup, _, attaches⟩
    · constructor
      · intro result after returned
        rw [thrown] at returned
        cases returned
      · intro failure after failed
        rw [thrown] at failed
        cases failed
        exact ⟨.refl, raising.external error⟩
    · have refines := (attach_acquires kernel (boostPath controlGroup)).refines id world held sound
      constructor
      · intro result after returned
        exact refines.returned result after (attaches.symm.trans returned)
      · intro failure after failed
        exact refines.thrown failure after (attaches.symm.trans failed)
  · intro id world held result after sound returned
    rcases for_process_cases kernel boostPath raising (reads id) id world with
      ⟨error, thrown⟩ | ⟨controlGroup, isNamed, attaches⟩
    · rw [thrown] at returned
      cases returned
    · rw [attaches] at returned
      have lands := (attach_acquires kernel (boostPath controlGroup)).lands id world held result
        after sound returned
      simp only [groupAt, isNamed]
      exact lands

theorem for_process_of_subsystem (kernel : Kernel σ) (boostPath : Text → BoostPath)
    (raising : Raising) (read : Except ProcessInfoError ProcessInfo) {world : World σ}
    {subsystem : String} {hierarchyInfo : HierarchyInfo}
    (found : world.instance_.info.bySubsystem subsystem = .ok hierarchyInfo) :
    forProcess raising (forProcessInfoOfSubsystem kernel boostPath raising subsystem) read world =
      forProcess raising (forProcessInfo kernel boostPath raising hierarchyInfo.id) read world := by
  cases read with
  | error error => rfl
  | ok processInfo =>
      have known : world.instance_.info.byHierarchyId hierarchyInfo.id = .ok hierarchyInfo := by
        rw [SystemInfo.bySubsystem] at found
        split at found
        next => cases found
        next id listed =>
            have stored := SystemInfo.by_id_no_fail_eq_ok.mp found
            rw [SystemInfo.by_hierarchy_id_eq_ok, world.instance_.keyed id hierarchyInfo stored]
            exact stored
      change forLookup kernel boostPath raising
          (processInfo.bySubsystem world.instance_.info subsystem) world =
        forLookup kernel boostPath raising
          (processInfo.byHierarchyId world.instance_.info hierarchyInfo.id) world
      rw [ProcessInfo.bySubsystem, ProcessInfo.byHierarchyId, found, known]

theorem acquire_all_each {acquire : Nat → Call σ ObjectId} {listing order : HashOrder Nat}
    {rehash : Rehash ObjectId} {world after : World σ} {made : MultipleControlGroup ObjectId}
    (returned : MultipleControlGroup.acquireAll kernel listing order rehash acquire world =
      .ok made after) :
    ∀ hierarchyInfo ∈ iterate listing world.instance_.info.id2hierarchy_,
      ∃ middle pointer last, acquire hierarchyInfo.id middle = .ok pointer last := by
  refine (fold_cases (fun _ before _ => ∀ hierarchyInfo ∈ before,
    ∃ middle pointer last, acquire hierarchyInfo.id middle = .ok pointer last) ?_
    (MultipleControlGroup.empty ObjectId) [] _ world ?_).1 made after returned
  · intro cgroup before hierarchyInfo middle next finish earlier stepped other inside
    rcases List.mem_append.mp inside with visited | last
    · exact earlier other visited
    · rcases bind_eq_ok.mp stepped with ⟨pointer, reached, acquired, _⟩
      rw [List.mem_singleton.mp last]
      exact ⟨middle, pointer, reached, unwinding_eq_ok.mp acquired⟩
  · intro hierarchyInfo inside
    cases inside

/-- A file the kernel prints for a process that is in the group. -/
def Reports (file : Except Errno Text) (hierarchyId : Nat) (group : ControlGroupPath) : Prop :=
  ∃ contents entries, file = .ok contents ∧ RendersFile entries contents ∧
    (∀ entry ∈ entries, WellFormed entry) ∧ (entries.map Entry.hierarchyId).Nodup ∧
    (∀ name ∈ group, Printable name) ∧
    ∃ entry ∈ entries, entry.hierarchyId = UInt64.ofNat hierarchyId ∧
      entry.controlGroup = printPath group

theorem named_of_reports {file : Except Errno Text} {hierarchyId : Nat} {group : ControlGroupPath}
    (reports : Reports file hierarchyId group) (path : Text) :
    named (fromFile path file) hierarchyId = some (printPath group) := by
  obtain ⟨contents, entries, rfl, rendered, wellFormed, distinct, _, entry, member, same,
    atGroup⟩ := reports
  rw [from_rendered_file wellFormed rendered]
  rcases add_entries_cases path entries with ⟨_, processInfo, added, indexes⟩ | ⟨repeated, _⟩
  · rw [added]
    exact (indexes _ _).mpr ⟨entry, member, same, atGroup⟩
  · exact absurd distinct repeated

theorem group_at_of_reports (printed : ReadsPrinted boostPath) {file : Except Errno Text}
    {hierarchyId : Nat} {group : ControlGroupPath} (reports : Reports file hierarchyId group)
    (path : Text) : groupAt boostPath (fromFile path file) hierarchyId = group := by
  have printable : ∀ name ∈ group, Printable name := by
    obtain ⟨_, _, _, _, _, _, printable, _⟩ := reports
    exact printable
  rw [groupAt, named_of_reports reports path, Option.getD_some, printed group printable]
  exact lexical_path_ordinary [] group fun name inside => (printable name inside).ordinary

/-- Every member is at the group that the file named for its hierarchy when it was read; no map
is returned where one of the files could not be used, and where they are what the kernel prints
the members are the groups of the process. -/
structure Follows (boostPath : Text → BoostPath) (origin : Client σ) (path : Text)
    (reads : Nat → Reading)
    (result : EStateM.Result Failure (World σ) (MultipleControlGroup ObjectId)) : Prop where
  attached : OneForEach origin (fun id => groupAt boostPath (fromFile path (reads id path)) id)
    result
  complete : ∀ made after, result = .ok made after → ∀ id,
    (origin.world.instance_.info.id2hierarchy_.lookup id).isSome →
      ∃ controlGroup, named (fromFile path (reads id path)) id = some controlGroup ∧
        (boostPath controlGroup).isAbsolute
  reported : ∀ placed : Nat → ControlGroupPath,
    (∀ id, (origin.world.instance_.info.id2hierarchy_.lookup id).isSome →
      Reports (reads id path) id (placed id)) → OneForEach origin placed result

theorem one_for_each_congr {left right : Nat → ControlGroupPath}
    {result : EStateM.Result Failure (World σ) (MultipleControlGroup ObjectId)}
    (same : ∀ id, (origin.world.instance_.info.id2hierarchy_.lookup id).isSome →
      left id = right id)
    (each : OneForEach origin left result) : OneForEach origin right result := by
  refine ⟨each.thrown, each.keys, ?_, each.population⟩
  intro made after returned id member found
  obtain ⟨object, live, info, mounted, atPath⟩ := each.members made after returned id member found
  exact ⟨object, live, info, mounted, atPath.trans (same id (by rw [info]; rfl))⟩

theorem attached_absolute {id : Nat} {path : BoostPath} {world after : World σ}
    {result : ObjectId} (returned : attach kernel id path world = .ok result after) :
    path.isAbsolute = true := by
  by_contra relative
  unfold attach at returned
  rw [if_neg relative] at returned
  cases returned

theorem acquired_follows (printed : ReadsPrinted boostPath) (sound : ClientSound origin)
    (orders : Orders) (path : Text) (reads : Nat → Reading) :
    Follows boostPath origin path reads
      (MultipleControlGroup.acquireAll kernel orders.listing orders.order orders.rehash
        (fun id => forProcess raising (forProcessInfo kernel boostPath raising id)
          (fromFile path (reads id path))) origin.world) := by
  have each := acquired_one_for_each
    (for_process_acquires kernel boostPath raising fun id => fromFile path (reads id path)) sound
    orders
  refine ⟨each, ?_, ?_⟩
  · intro made after returned id known
    obtain ⟨hierarchyInfo, found⟩ := Option.isSome_iff_exists.mp known
    have inside := (mem_iterate_iff orders.listing _ hierarchyInfo).mpr ⟨id, found⟩
    obtain ⟨middle, pointer, last, acquired⟩ := acquire_all_each returned hierarchyInfo inside
    rw [origin.world.instance_.keyed id hierarchyInfo found] at acquired
    rcases for_process_cases kernel boostPath raising (fromFile path (reads id path)) id middle with
      ⟨error, thrown⟩ | ⟨controlGroup, isNamed, attaches⟩
    · rw [thrown] at acquired
      cases acquired
    · exact ⟨controlGroup, isNamed, attached_absolute (attaches.symm.trans acquired)⟩
  · intro placed reports
    exact one_for_each_congr
      (fun id known => group_at_of_reports printed (reports id known) path) each

/-- `forPid()` and `forSelf()` in every reachable session. -/
theorem process_groups_attached (kernel : Kernel σ) (boostPath : Text → BoostPath)
    (printed : ReadsPrinted boostPath) (raising : Raising) (orders : Orders)
    (instance_ : SystemInfoPointer) (state : σ) (actions : List (MultipleRun.Action σ))
    (session : Session σ)
    (executed : run (Session.step kernel orders) (begin instance_ state) actions =
      some session) (reads : Nat → Reading) :
    (∀ pid, Follows boostPath session.client (ProcessInfo.pidFile pid) reads
      (MultipleControlGroup.forPid kernel boostPath raising orders.listing orders.order
        orders.rehash reads pid session.world)) ∧
    Follows boostPath session.client ProcessInfo.selfFile reads
      (MultipleControlGroup.forSelf kernel boostPath raising orders.listing orders.order
        orders.rehash reads session.world) := by
  have sound := (run_sound executed).sound
  exact ⟨fun pid => acquired_follows printed sound orders (ProcessInfo.pidFile pid) reads,
    acquired_follows printed sound orders ProcessInfo.selfFile reads⟩

def jobsEntries : List Entry :=
  [{ hierarchyId := 7, subsystems := {ascii "freezer"}, controlGroup := ascii "/" },
    { hierarchyId := 3, subsystems := {ascii "cpuset"}, controlGroup := ascii "/jobs" }]

def jobsFile : Reading := fun _ => .ok (ascii "7:freezer:/\n3:cpuset:/jobs\n")

def jobsGroup (hierarchyId : Nat) : ControlGroupPath := if hierarchyId = 3 then [jobs] else []

def streamRaising : Raising where
  raise _ := { kind := .stream 0 }
  external _ := trivial

theorem jobs_file_reports (path : Text) {id : Nat} (known : id = 7 ∨ id = 3) :
    Reports (jobsFile path) id (jobsGroup id) := by
  have rendered : RendersFile jobsEntries (ascii "7:freezer:/\n3:cpuset:/jobs\n") := by
    refine ⟨[ascii "7:freezer:/", ascii "3:cpuset:/jobs"], ?_, .inl rfl⟩
    exact .cons ⟨[ascii "freezer"], by decide, by decide, rfl⟩
      (.cons ⟨[ascii "cpuset"], by decide, by decide, rfl⟩ .nil)
  have wellFormed : ∀ entry ∈ jobsEntries, WellFormed entry := by
    intro entry member
    simp only [jobsEntries, List.mem_cons, List.not_mem_nil, or_false] at member
    rcases member with rfl | rfl
    · exact ⟨by decide, by decide, by decide⟩
    · exact ⟨by decide, by decide, by decide⟩
  have single : (jobs.text.toList.all fun character => character.toNat < 256) = true := by decide
  have printable : ∀ name ∈ [jobs], Printable name := by
    intro name inside
    rw [List.mem_singleton.mp inside]
    exact ⟨by decide, fun character member =>
      of_decide_eq_true (List.all_eq_true.mp single character member)⟩
  refine ⟨_, jobsEntries, rfl, rendered, wellFormed, by decide, ?_, ?_⟩
  · rcases known with rfl | rfl
    · intro name inside
      cases inside
    · exact printable
  · rcases known with rfl | rfl
    · exact ⟨_, List.mem_cons_self, rfl, rfl⟩
    · exact ⟨_, List.mem_cons_of_mem _ List.mem_cons_self, rfl, rfl⟩

theorem process_groups_attached_jobs :
    ∃ session, run (Session.step directoryKernel insertionOrders) (begin twoHierarchies [])
        twoHierarchyRun = some session ∧
      keysOf (MultipleControlGroup.forPid directoryKernel singleSlashes streamRaising
        insertionOrders.listing insertionOrders.order insertionOrders.rehash (fun _ => jobsFile) 42
        session.world) = some [3, 7] ∧
      OneForEach session.client jobsGroup
        (MultipleControlGroup.forPid directoryKernel singleSlashes streamRaising
          insertionOrders.listing insertionOrders.order insertionOrders.rehash (fun _ => jobsFile)
          42 session.world) := by
  have outcome : (run (Session.step directoryKernel insertionOrders) (begin twoHierarchies [])
      twoHierarchyRun).map (fun session =>
        (session.world.instance_.info.id2hierarchy_.keys, keysOf (MultipleControlGroup.forPid
          directoryKernel singleSlashes streamRaising insertionOrders.listing insertionOrders.order
          insertionOrders.rehash (fun _ => jobsFile) 42 session.world))) =
      some ([7, 3], some [3, 7]) := by
    decide +kernel
  rcases Option.map_eq_some_iff.mp outcome with ⟨session, executed, results⟩
  rcases Prod.mk.inj results with ⟨listed, keys⟩
  have follows := (process_groups_attached directoryKernel singleSlashes
    single_slashes_reads_printed streamRaising insertionOrders twoHierarchies [] twoHierarchyRun
    session executed fun _ => jobsFile).1 42
  refine ⟨session, executed, keys, follows.reported jobsGroup ?_⟩
  intro id known
  have member : id ∈ session.world.instance_.info.id2hierarchy_.keys :=
    AList.lookup_isSome.mp known
  rw [listed] at member
  simp only [List.mem_cons, List.not_mem_nil, or_false] at member
  exact jobs_file_reports _ member

end ProcessGroups

end ContestSystem.Cgroup
