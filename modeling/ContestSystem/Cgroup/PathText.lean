import ContestSystem.Cgroup.Path
import ContestSystem.Lib.Decimal
import ContestSystem.Lib.Text

/-!
# The text of a control group's path

The kernel prints the path of a control group with a slash before each name, and a
slash alone for the root; `boost::filesystem::path` takes such a text apart again. The
parser is not part of this library and stays a parameter, of which only this is used.
A character of a component stands for one byte of the text.
-/

namespace ContestSystem.Cgroup.PathText

open ContestSystem.Lib.Decimal ContestSystem.Lib.Text

set_option autoImplicit false

def slash : Byte := '/'.toUInt8

theorem byte_of_character (byte : Byte) : (Char.ofUInt8 byte).toUInt8 = byte := by
  apply UInt8.toNat_inj.mp
  change byte.toNat % 256 = byte.toNat
  exact Nat.mod_eq_of_lt byte.toNat_lt

theorem character_of_byte {character : Char} (single : character.toNat < 256) :
    Char.ofUInt8 character.toUInt8 = character := by
  apply Char.ext
  apply UInt32.toNat_inj.mp
  change character.toNat % 256 = character.toNat
  exact Nat.mod_eq_of_lt single

def bytesOf (name : Component) : Text := name.text.toList.map Char.toUInt8

def component (piece : Text) (plain : slash ∉ piece) : Component where
  text := String.ofList (piece.map Char.ofUInt8)
  slashFree := by
    rw [String.toList_ofList]
    intro member
    obtain ⟨byte, inside, isSlash⟩ := List.mem_map.mp member
    have same : (Char.ofUInt8 byte).toUInt8 = slash := congrArg Char.toUInt8 isSlash
    rw [byte_of_character] at same
    exact plain (same ▸ inside)

def names (text : Text) : List Component :=
  ((text.splitOn slash).pmap component (split_on_plain slash text)).filter (·.text ≠ "")

def printPath (path : ControlGroupPath) : Text := slash :: [slash].intercalate (path.map bytesOf)

structure Printable (name : Component) : Prop where
  ordinary : name.IsOrdinary
  single : ∀ character ∈ name.text.toList, character.toNat < 256

/-- One slash and the names behind slashes are an absolute path of these names. -/
def ReadsPrinted (boostPath : Text → BoostPath) : Prop :=
  ∀ path : ControlGroupPath, (∀ name ∈ path, Printable name) →
    boostPath (printPath path) = path.boostPath

theorem component_bytes {name : Component} (printable : Printable name)
    (plain : slash ∉ bytesOf name) : component (bytesOf name) plain = name := by
  have same : (bytesOf name).map Char.ofUInt8 = name.text.toList := by
    rw [bytesOf, List.map_map]
    calc
      _ = name.text.toList.map id := List.map_congr_left fun character member =>
        character_of_byte (printable.single character member)
      _ = name.text.toList := List.map_id _
  cases name
  simp only [component, same, String.ofList_toList]

theorem bytes_plain {name : Component} (printable : Printable name) : slash ∉ bytesOf name := by
  intro member
  obtain ⟨character, inside, isSlash⟩ := List.mem_map.mp member
  have same : Char.ofUInt8 character.toUInt8 = '/' := congrArg Char.ofUInt8 isSlash
  rw [character_of_byte (printable.single character inside)] at same
  exact name.slashFree (same ▸ inside)

theorem pmap_bytes {path : List Component} (printable : ∀ name ∈ path, Printable name)
    (plain : ∀ piece ∈ path.map bytesOf, slash ∉ piece) :
    (path.map bytesOf).pmap component plain = path := by
  induction path with
  | nil => rfl
  | cons name path ih =>
      simp only [List.map_cons, List.pmap_cons]
      rw [component_bytes (printable name List.mem_cons_self),
        ih fun other inside => printable other (List.mem_cons_of_mem _ inside)]

theorem names_of_pieces {text : Text} {pieces : List Text} (cut : text.splitOn slash = pieces)
    (plain : ∀ piece ∈ pieces, slash ∉ piece) :
    names text = (pieces.pmap component plain).filter (·.text ≠ "") := by
  subst cut
  rfl

theorem split_print_path {path : ControlGroupPath} (printable : ∀ name ∈ path, Printable name)
    (below : path ≠ []) : (printPath path).splitOn slash = [] :: path.map bytesOf := by
  rw [printPath, List.splitOn_cons_eq_if_modifyHead, if_pos BEq.rfl, List.splitOn_intercalate]
  · intro piece member
    obtain ⟨name, inside, rfl⟩ := List.mem_map.mp member
    exact bytes_plain (printable name inside)
  · exact fun empty => below (List.map_eq_nil_iff.mp empty)

theorem names_print_path {path : ControlGroupPath}
    (printable : ∀ name ∈ path, Printable name) : names (printPath path) = path := by
  by_cases root : path = []
  · rw [root]
    rfl
  · have plain : ∀ piece ∈ [] :: path.map bytesOf, slash ∉ piece := by
      rw [← split_print_path printable root]
      exact split_on_plain slash _
    rw [names_of_pieces (split_print_path printable root) plain, List.pmap_cons,
      pmap_bytes printable]
    rw [List.filter_cons_of_neg (by simp [component])]
    apply List.filter_eq_self.mpr
    intro name inside
    exact decide_eq_true (printable name inside).ordinary.1

/-- A parser for texts with single slashes and none at their end, the root apart. -/
def singleSlashes (text : Text) : BoostPath :=
  { isAbsolute := text.head? = some slash, components := names text }

theorem single_slashes_reads_printed : ReadsPrinted singleSlashes := by
  intro path printable
  rw [singleSlashes, names_print_path printable]
  rfl

end ContestSystem.Cgroup.PathText
