import Mathlib.Data.Finset.Basic
import Mathlib.Data.UInt

/-!
# Dropping privileges

A process has a real, an effective and a saved user id, the same three group
ids, and a set of supplementary groups. `dropId` sets the group ids and then
the user ids of a process of root. The kernel may refuse a call, and it lets a
process whose effective user is not root only permute the ids that it has.
-/

namespace ContestSystem.Unistd.Access

set_option autoImplicit false

abbrev IdNumber := UInt32

/-- `(uid_t)-1`, which is no id and leaves one unchanged where that is possible. -/
def unset : IdNumber := 0xFFFFFFFF

def root : IdNumber := 0

structure Id where
  uid : IdNumber := 0
  gid : IdNumber := 0

structure Ids where
  real : IdNumber
  effective : IdNumber
  saved : IdNumber
deriving DecidableEq

structure Credentials where
  uids : Ids
  gids : Ids
  groups : Finset IdNumber
deriving DecidableEq

def Credentials.Privileged (credentials : Credentials) : Prop :=
  credentials.uids.effective = root

instance (credentials : Credentials) : Decidable credentials.Privileged :=
  inferInstanceAs (Decidable (_ = _))

namespace Ids

def all (id : IdNumber) : Ids :=
  { real := id, effective := id, saved := id }

/-- An argument replaces an id unless it is -1. -/
def pick (argument current : IdNumber) : IdNumber :=
  if argument = unset then current else argument

/-- `setuid` and `setgid`; `none` where the call fails. -/
def set (privileged : Prop) [Decidable privileged] (id : IdNumber) (ids : Ids) : Option Ids :=
  if id = unset then none
  else if privileged then some (all id)
  else if id = ids.real ∨ id = ids.saved then some { ids with effective := id }
  else none

/-- An argument that leaves an id or is one that the process has. -/
def Known (ids : Ids) (argument : IdNumber) : Prop :=
  argument = unset ∨ argument = ids.real ∨ argument = ids.effective ∨ argument = ids.saved

instance (ids : Ids) (argument : IdNumber) : Decidable (ids.Known argument) :=
  inferInstanceAs (Decidable (_ ∨ _ ∨ _ ∨ _))

/-- `setreuid` and `setregid`. -/
def setRealEffective (privileged : Prop) [Decidable privileged] (real effective : IdNumber)
    (ids : Ids) : Option Ids :=
  if privileged ∨ ((real = unset ∨ real = ids.real ∨ real = ids.effective) ∧
      ids.Known effective) then
    some
      { real := pick real ids.real
        effective := pick effective ids.effective
        saved :=
          if real ≠ unset ∨ (effective ≠ unset ∧ effective ≠ ids.real) then
            pick effective ids.effective
          else ids.saved }
  else none

/-- `setresuid` and `setresgid`. -/
def setAll (privileged : Prop) [Decidable privileged] (real effective saved : IdNumber)
    (ids : Ids) : Option Ids :=
  if privileged ∨ (ids.Known real ∧ ids.Known effective ∧ ids.Known saved) then
    some
      { real := pick real ids.real
        effective := pick effective ids.effective
        saved := pick saved ids.saved }
  else none

/-- `seteuid` and `setegid`. -/
def setEffective (privileged : Prop) [Decidable privileged] (effective : IdNumber) (ids : Ids) :
    Option Ids :=
  if effective = unset then none else setAll privileged unset effective unset ids

end Ids

inductive Call
  | setuid (uid : IdNumber)
  | seteuid (uid : IdNumber)
  | setreuid (ruid euid : IdNumber)
  | setresuid (ruid euid suid : IdNumber)
  | setgid (gid : IdNumber)
  | setegid (gid : IdNumber)
  | setregid (rgid egid : IdNumber)
  | setresgid (rgid egid sgid : IdNumber)

def permitted (credentials : Credentials) : Call → Option Credentials
  | .setuid uid => (credentials.uids.set credentials.Privileged uid).map withUids
  | .seteuid uid => (credentials.uids.setEffective credentials.Privileged uid).map withUids
  | .setreuid ruid euid =>
      (credentials.uids.setRealEffective credentials.Privileged ruid euid).map withUids
  | .setresuid ruid euid suid =>
      (credentials.uids.setAll credentials.Privileged ruid euid suid).map withUids
  | .setgid gid => (credentials.gids.set credentials.Privileged gid).map withGids
  | .setegid gid => (credentials.gids.setEffective credentials.Privileged gid).map withGids
  | .setregid rgid egid =>
      (credentials.gids.setRealEffective credentials.Privileged rgid egid).map withGids
  | .setresgid rgid egid sgid =>
      (credentials.gids.setAll credentials.Privileged rgid egid sgid).map withGids
where
  withUids (uids : Ids) : Credentials := { credentials with uids := uids }
  withGids (gids : Ids) : Credentials := { credentials with gids := gids }

/-- A call that is permitted may still be refused. -/
def call (refused : Bool) (request : Call) (credentials : Credentials) : Option Credentials :=
  if refused then none else permitted credentials request

def attempt (credentials : Credentials) (request : Bool × Call) : Credentials :=
  (call request.1 request.2 credentials).getD credentials

/-- `none` where one of the two calls throws. -/
def dropId (refusedGid refusedUid : Bool) (id : Id) (credentials : Credentials) :
    Option Credentials :=
  (call refusedGid (.setgid id.gid) credentials).bind (call refusedUid (.setuid id.uid))

/-- What is expected of a process that has dropped to an id. -/
structure Dropped (id : Id) (before after : Credentials) : Prop where
  uids : after.uids = .all id.uid
  gids : after.gids = .all id.gid
  groups : ∀ group ∈ before.groups, group ∉ after.groups
  forGood : ∀ later : List (Bool × Call),
    (later.foldl attempt after).uids = .all id.uid ∧
      (later.foldl attempt after).gids = .all id.gid

section Unprivileged

variable {privileged : Prop} [Decidable privileged] {id argument : IdNumber} {ids : Ids}

theorem pick_same (allowed : argument = unset ∨ argument = id) : Ids.pick argument id = id := by
  unfold Ids.pick
  split
  · rfl
  · rename_i given
    exact allowed.resolve_left given

theorem pick_known (known : (Ids.all id).Known argument) : Ids.pick argument id = id := by
  simp only [Ids.Known, Ids.all, or_self] at known
  exact pick_same known

theorem set_all_kept (unprivileged : ¬privileged)
    (changed : (Ids.all id).set privileged argument = some ids) : ids = .all id := by
  unfold Ids.set at changed
  rw [if_neg unprivileged] at changed
  split at changed
  · cases changed
  · split at changed
    · rename_i known
      cases changed
      rcases known with same | same
      · rw [same]
        rfl
      · rw [same]
        rfl
    · cases changed

theorem set_real_effective_kept {real effective : IdNumber} (unprivileged : ¬privileged)
    (changed : (Ids.all id).setRealEffective privileged real effective = some ids) :
    ids = .all id := by
  unfold Ids.setRealEffective at changed
  split at changed
  · rename_i permitted
    obtain ⟨allowedReal, allowedEffective⟩ := permitted.resolve_left unprivileged
    simp only [Ids.all, or_self] at allowedReal
    cases changed
    simp only [Ids.all, pick_same allowedReal, pick_known allowedEffective, ite_self]
  · cases changed

theorem set_each_kept {real effective saved : IdNumber} (unprivileged : ¬privileged)
    (changed : (Ids.all id).setAll privileged real effective saved = some ids) :
    ids = .all id := by
  unfold Ids.setAll at changed
  split at changed
  · rename_i permitted
    obtain ⟨knownReal, knownEffective, knownSaved⟩ := permitted.resolve_left unprivileged
    cases changed
    simp only [Ids.all, pick_known knownReal, pick_known knownEffective, pick_known knownSaved]
  · cases changed

theorem set_effective_kept (unprivileged : ¬privileged)
    (changed : (Ids.all id).setEffective privileged argument = some ids) : ids = .all id := by
  unfold Ids.setEffective at changed
  split at changed
  · cases changed
  · exact set_each_kept unprivileged changed

end Unprivileged

section AfterTheDrop

variable {id : Id} {credentials next : Credentials}

/-- The ids of a process that has dropped. -/
structure Settled (id : Id) (credentials : Credentials) : Prop where
  uids : credentials.uids = .all id.uid
  gids : credentials.gids = .all id.gid

theorem settled_unprivileged (notRoot : id.uid ≠ root) (settled : Settled id credentials) :
    ¬credentials.Privileged := by
  intro privileged
  rw [Credentials.Privileged, settled.uids] at privileged
  exact notRoot privileged

theorem with_uids_settled {changed : Option Ids} (settled : Settled id credentials)
    (kept : ∀ uids, changed = some uids → uids = .all id.uid)
    (answered : changed.map (permitted.withUids credentials) = some next) : Settled id next := by
  obtain ⟨uids, same, rfl⟩ := Option.map_eq_some_iff.mp answered
  exact ⟨kept uids same, settled.gids⟩

theorem with_gids_settled {changed : Option Ids} (settled : Settled id credentials)
    (kept : ∀ gids, changed = some gids → gids = .all id.gid)
    (answered : changed.map (permitted.withGids credentials) = some next) : Settled id next := by
  obtain ⟨gids, same, rfl⟩ := Option.map_eq_some_iff.mp answered
  exact ⟨settled.uids, kept gids same⟩

theorem permitted_settled {request : Call} (notRoot : id.uid ≠ root)
    (settled : Settled id credentials) (answered : permitted credentials request = some next) :
    Settled id next := by
  have unprivileged := settled_unprivileged notRoot settled
  cases request with
  | setuid uid =>
      apply with_uids_settled settled _ answered
      rw [settled.uids]
      exact fun _ => set_all_kept unprivileged
  | seteuid uid =>
      apply with_uids_settled settled _ answered
      rw [settled.uids]
      exact fun _ => set_effective_kept unprivileged
  | setreuid ruid euid =>
      apply with_uids_settled settled _ answered
      rw [settled.uids]
      exact fun _ => set_real_effective_kept unprivileged
  | setresuid ruid euid suid =>
      apply with_uids_settled settled _ answered
      rw [settled.uids]
      exact fun _ => set_each_kept unprivileged
  | setgid gid =>
      apply with_gids_settled settled _ answered
      rw [settled.gids]
      exact fun _ => set_all_kept unprivileged
  | setegid gid =>
      apply with_gids_settled settled _ answered
      rw [settled.gids]
      exact fun _ => set_effective_kept unprivileged
  | setregid rgid egid =>
      apply with_gids_settled settled _ answered
      rw [settled.gids]
      exact fun _ => set_real_effective_kept unprivileged
  | setresgid rgid egid sgid =>
      apply with_gids_settled settled _ answered
      rw [settled.gids]
      exact fun _ => set_each_kept unprivileged

theorem attempt_settled {request : Bool × Call} (notRoot : id.uid ≠ root)
    (settled : Settled id credentials) : Settled id (attempt credentials request) := by
  unfold attempt call
  split
  · exact settled
  · cases answered : permitted credentials request.2 with
    | none => exact settled
    | some next => exact permitted_settled notRoot settled answered

theorem attempts_settled {later : List (Bool × Call)} (notRoot : id.uid ≠ root)
    (settled : Settled id credentials) : Settled id (later.foldl attempt credentials) := by
  induction later generalizing credentials with
  | nil => exact settled
  | cons request later ih => exact ih (attempt_settled notRoot settled)

variable {refusedGid refusedUid : Bool}

theorem set_privileged {privileged : Prop} [Decidable privileged] {number : IdNumber}
    {ids after : Ids} (holds : privileged) (changed : ids.set privileged number = some after) :
    after = .all number := by
  unfold Ids.set at changed
  rw [if_pos holds] at changed
  split at changed
  · cases changed
  · cases changed
    rfl

/-- The group ids go first, while the process is still privileged. -/
theorem drop_id_settled (privileged : credentials.Privileged)
    (returned : dropId refusedGid refusedUid id credentials = some next) :
    Settled id next ∧ next.groups = credentials.groups := by
  obtain ⟨middle, first, second⟩ := Option.bind_eq_some_iff.mp returned
  unfold call at first second
  split at first
  · cases first
  · split at second
    · cases second
    · obtain ⟨gids, changedGids, rfl⟩ := Option.map_eq_some_iff.mp first
      obtain ⟨uids, changedUids, rfl⟩ := Option.map_eq_some_iff.mp second
      exact ⟨⟨set_privileged privileged changedUids, set_privileged privileged changedGids⟩, rfl⟩

/-- `dropId` does all that is expected of it but for the supplementary groups. -/
theorem drop_id_dropped_iff (privileged : credentials.Privileged) (notRoot : id.uid ≠ root)
    (returned : dropId refusedGid refusedUid id credentials = some next) :
    Dropped id credentials next ↔ credentials.groups = ∅ := by
  obtain ⟨settled, groups⟩ := drop_id_settled privileged returned
  constructor
  · intro dropped
    apply Finset.eq_empty_of_forall_notMem
    intro group member
    apply dropped.groups group member
    rw [groups]
    exact member
  · intro empty
    refine ⟨settled.uids, settled.gids, ?_, ?_⟩
    · intro group member
      rw [empty] at member
      cases member
    · intro later
      have after : Settled id (later.foldl attempt next) := attempts_settled notRoot settled
      exact ⟨after.uids, after.gids⟩

def rootProcess : Credentials :=
  { uids := .all root, gids := .all root, groups := ∅ }

theorem root_process_dropped :
    Dropped { uid := 1000, gid := 1000 } rootProcess
        { uids := .all 1000, gids := .all 1000, groups := ∅ } ↔ rootProcess.groups = ∅ :=
  drop_id_dropped_iff rfl (by decide)
    (show dropId false false { uid := 1000, gid := 1000 } rootProcess = some _ by decide)

/-- The group of root stays. -/
theorem root_group_kept :
    ∃ after, dropId false false { uid := 1000, gid := 1000 }
        { rootProcess with groups := {root} } = some after ∧
      ¬Dropped { uid := 1000, gid := 1000 } { rootProcess with groups := {root} } after := by
  refine ⟨{ uids := .all 1000, gids := .all 1000, groups := {root} }, by decide, ?_⟩
  intro dropped
  exact dropped.groups root (by decide) (by decide)

end AfterTheDrop

end ContestSystem.Unistd.Access
