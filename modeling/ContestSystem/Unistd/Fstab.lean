import ContestSystem.Lib.Throwing
import ContestSystem.Unistd.CharStarStar
import ContestSystem.Unistd.MountEntry

/-!
# Saving and loading a mount table

`Fstab::save` fills one `struct mntent` again and again and hands it to
`addmntent`. A member of that record is `none` as long as nothing has assigned
it. What libc reads from such a member is undefined, so it is any value here.
-/

namespace ContestSystem.Unistd

open ContestSystem.Lib.Decimal ContestSystem.Lib.Throwing

set_option autoImplicit false

/-- `struct mntent` with the C strings its members point to. -/
structure Mntent where
  mnt_fsname : Option Text := none
  mnt_dir : Option Text := none
  mnt_type : Option Text := none
  mnt_opts : Option Text := none
  mnt_freq : Option Int32 := none
  mnt_passno : Option Int32 := none
deriving DecidableEq

/-- `stringToVectorChar`, as far as a reader of C strings gets. -/
def stringToVectorChar (text : Text) : Text :=
  text.takeWhile (· ≠ 0)

theorem vector_read (text : Text) : ∃ bytes, CharStarStar.stringToVectorChar text = .ok bytes ∧
    Lib.Arrays.upTo nul bytes = some (stringToVectorChar text) :=
  ⟨_, CharStarStar.string_to_vector_char_eq text, Lib.Arrays.up_to_terminated nul text []⟩

/-- The records of the file; libc escapes and unescapes their fields. -/
abbrev Table := List MountEntry

/-- `indeterminate` is what libc finds in members that were never assigned. -/
structure Libc where
  opens : Bool
  accepts : Table → Bool
  indeterminate : MountEntry

def Libc.recordOf (libc : Libc) (mntbuf : Mntent) : MountEntry :=
  { fsname := mntbuf.mnt_fsname.getD libc.indeterminate.fsname
    dir := mntbuf.mnt_dir.getD libc.indeterminate.dir
    type := mntbuf.mnt_type.getD libc.indeterminate.type
    opts := mntbuf.mnt_opts.getD libc.indeterminate.opts
    freq := mntbuf.mnt_freq.getD libc.indeterminate.freq
    passno := mntbuf.mnt_passno.getD libc.indeterminate.passno }

structure FstabError where
  what : String
deriving DecidableEq

namespace Fstab

def fill (mntbuf : Mntent) (ent : MountEntry) : Mntent :=
  let fsname := stringToVectorChar ent.fsname
  let mntbuf := { mntbuf with mnt_fsname := some fsname }
  let dir := stringToVectorChar ent.dir
  let mntbuf := { mntbuf with mnt_fsname := some dir }
  let type := stringToVectorChar ent.type
  let mntbuf := { mntbuf with mnt_fsname := some type }
  let opts := stringToVectorChar ent.opts
  let mntbuf := { mntbuf with mnt_fsname := some opts }
  let mntbuf := { mntbuf with mnt_freq := some ent.freq }
  { mntbuf with mnt_passno := some ent.passno }

/-- A stream opened for writing starts with an empty file. -/
def setmntent (libc : Libc) (writing : Bool) : EStateM FstabError Table Unit := do
  if libc.opens then
    if writing then set ([] : Table)
  else throw { what := "setmntent (fopen)" }

def addmntent (libc : Libc) (mntbuf : Mntent) : EStateM FstabError Table Unit := do
  if libc.accepts (← get) then modify (· ++ [libc.recordOf mntbuf])
  else throw { what := "addmntent" }

def saveEntry (libc : Libc) (mntbuf : Mntent) (ent : MountEntry) :
    EStateM FstabError Table Mntent := do
  let mntbuf := fill mntbuf ent
  addmntent libc mntbuf
  pure mntbuf

def save (libc : Libc) (entries : List MountEntry) : EStateM FstabError Table Unit := do
  setmntent libc true
  let _ ← entries.foldlM (saveEntry libc) {}

/-- `getmntent_r` returns the records of the file one after another. -/
def load (libc : Libc) : EStateM FstabError Table (List MountEntry) := do
  setmntent libc false
  get

def handed : Mntent → List MountEntry → List Mntent
  | _, [] => []
  | mntbuf, ent :: entries => fill mntbuf ent :: handed (fill mntbuf ent) entries

def recordFor (ent : MountEntry) : Mntent :=
  { mnt_fsname := some ent.fsname, mnt_dir := some ent.dir, mnt_type := some ent.type
    mnt_opts := some ent.opts, mnt_freq := some ent.freq, mnt_passno := some ent.passno }

/-- `save` hands over every entry as it is, and loading the file gives the list back. -/
structure SavesFaithfully (entries : List MountEntry) : Prop where
  handedOver : handed {} entries = entries.map recordFor
  loaded : ∀ libc : Libc, libc.opens = true → (∀ table, libc.accepts table = true) →
    ∀ before, ∃ after, save libc entries before = .ok () after ∧
      load libc after = .ok entries after

/-- An iteration overwrites what the one before it assigned, and nothing else. -/
theorem fill_fill (mntbuf : Mntent) (first second : MountEntry) :
    fill (fill mntbuf first) second = fill mntbuf second := rfl

theorem handed_eq (mntbuf : Mntent) (entries : List MountEntry) :
    handed mntbuf entries = entries.map (fill mntbuf) := by
  induction entries generalizing mntbuf with
  | nil => rfl
  | cons ent entries ih =>
      have later : entries.map (fill (fill mntbuf ent)) = entries.map (fill mntbuf) :=
        List.map_congr_left fun second _ => fill_fill mntbuf ent second
      rw [handed, ih, later, List.map_cons]

theorem save_entries_eq {libc : Libc} (accepts : ∀ table, libc.accepts table = true)
    (mntbuf : Mntent) (entries : List MountEntry) (table : Table) :
    ∃ last, entries.foldlM (saveEntry libc) mntbuf table =
      .ok last (table ++ (handed mntbuf entries).map libc.recordOf) := by
  induction entries generalizing mntbuf table with
  | nil => exact ⟨mntbuf, by simp [handed, pure, EStateM.pure]⟩
  | cons ent entries ih =>
      obtain ⟨last, saved⟩ := ih (fill mntbuf ent) (table ++ [libc.recordOf (fill mntbuf ent)])
      have stepped : saveEntry libc mntbuf ent table =
          .ok (fill mntbuf ent) (table ++ [libc.recordOf (fill mntbuf ent)]) := by
        simp only [saveEntry, addmntent]
        refine bind_eq_ok.mpr ⟨(), _, bind_eq_ok.mpr ⟨table, table, rfl, ?_⟩, rfl⟩
        rw [if_pos (accepts table)]
        rfl
      refine ⟨last, ?_⟩
      rw [List.foldlM_cons]
      refine bind_eq_ok.mpr ⟨_, _, stepped, ?_⟩
      simpa [handed] using saved

theorem save_eq {libc : Libc} (opens : libc.opens = true)
    (accepts : ∀ table, libc.accepts table = true) (entries : List MountEntry) (before : Table) :
    save libc entries before = .ok () ((handed {} entries).map libc.recordOf) := by
  obtain ⟨last, saved⟩ := save_entries_eq accepts {} entries []
  rw [List.nil_append] at saved
  refine bind_eq_ok.mpr ⟨(), [], ?_, bind_eq_ok.mpr ⟨last, _, saved, rfl⟩⟩
  rw [setmntent, if_pos opens]
  rfl

theorem load_eq {libc : Libc} (opens : libc.opens = true) (table : Table) :
    load libc table = .ok table table := by
  refine bind_eq_ok.mpr ⟨(), table, ?_, rfl⟩
  rw [setmntent, if_pos opens]
  rfl

/-- `save` is faithful for the empty list only: the directory, the type and the
options of an entry are never assigned to their members of the record. -/
theorem saves_faithfully_iff (entries : List MountEntry) :
    SavesFaithfully entries ↔ entries = [] := by
  constructor
  · intro faithful
    cases entries with
    | nil => rfl
    | cons ent entries =>
        have records := faithful.handedOver
        rw [handed_eq, List.map_cons, List.map_cons, List.cons.injEq] at records
        exact absurd (congrArg Mntent.mnt_dir records.1) (by simp [fill, recordFor])
  · rintro rfl
    refine ⟨rfl, fun libc opens accepts before => ⟨[], ?_, load_eq opens []⟩⟩
    exact save_eq opens accepts [] before

def rootEntry : MountEntry :=
  { fsname := ascii "/dev/sda1", dir := ascii "/", type := ascii "ext4", opts := ascii "rw"
    freq := 0, passno := 1 }

/-- The record that `addmntent` gets has the options for the device and three
members that nothing has assigned. -/
theorem root_entry_corrupted :
    MountEntry.Filled rootEntry ∧
      handed {} [rootEntry] =
        [{ mnt_fsname := some (ascii "rw"), mnt_freq := some 0, mnt_passno := some 1 }] ∧
      ¬SavesFaithfully [rootEntry] := by
  refine ⟨⟨by decide, by decide, by decide, by decide⟩, rfl, fun faithful => ?_⟩
  exact absurd faithful.handedOver (by decide)

end Fstab

end ContestSystem.Unistd
