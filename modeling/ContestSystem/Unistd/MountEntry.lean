import ContestSystem.Lib.Decimal
import ContestSystem.Lib.Text

/-!
# Mount entries as fstab lines

`MountEntry` prints itself as a line of an fstab file and reads itself back.
Printing escapes what separates fields; reading first trims every white space
around the line, and that is more than printing escapes. The two are inverse
exactly for the entries whose first field does not start with such a byte.
-/

namespace ContestSystem.Unistd

open ContestSystem.Lib.Decimal ContestSystem.Lib.Text

set_option autoImplicit false

def space : Byte := ' '.toUInt8

def tab : Byte := '\t'.toUInt8

def newline : Byte := '\n'.toUInt8

def verticalTab : Byte := 11

def formFeed : Byte := 12

def carriageReturn : Byte := '\r'.toUInt8

def backslash : Byte := '\\'.toUInt8

def isSpace (byte : Byte) : Bool :=
  byte ∈ [space, tab, newline, verticalTab, formFeed, carriageReturn]

def isBlank (byte : Byte) : Bool :=
  byte ∈ [space, tab]

structure MountEntry where
  fsname : Text
  dir : Text
  type : Text
  opts : Text
  freq : Int32 := 0
  passno : Int32 := 0
deriving DecidableEq

/-- The exceptions: `MountEntryUninitializedFieldError`,
`MountEntryInvalidRepresentationError` and `boost::bad_lexical_cast`. -/
inductive MountEntryError
  | uninitializedField (field : String)
  | invalidRepresentation (message : String) (line : Text)
  | badLexicalCast
deriving DecidableEq

namespace MountEntry

def octal (byte : Byte) : Text :=
  [zero + byte / 64, zero + byte / 8 % 8, zero + byte % 8]

def isEscaped (byte : Byte) : Bool :=
  byte ∈ [space, tab, newline, backslash]

def escapeByte (byte : Byte) : Text :=
  if isEscaped byte then backslash :: octal byte else [byte]

def escape (field : Text) : Text :=
  field.flatMap escapeByte

/-- The loop of `unescape`; `octal` counts the backslash and the digits after it. -/
def unescapeFrom : Nat → Byte → Text → Text
  | _, _, [] => []
  | 0, code, byte :: rest =>
      if byte = backslash then unescapeFrom 1 0 rest else byte :: unescapeFrom 0 code rest
  | octal + 1, code, byte :: rest =>
      let code := code * 8 + (byte - zero)
      if octal + 2 = 4 then code :: unescapeFrom 0 code rest
      else unescapeFrom (octal + 2) code rest

def unescape (field : Text) : Text :=
  unescapeFrom 0 0 field

def construct (line_ : Text) : Except MountEntryError MountEntry :=
  let line := trim isSpace line_
  match splitRuns isBlank line with
  | [fsname, dir, type, opts, freq, passno] =>
      match lexicalCastInt freq with
      | none => .error .badLexicalCast
      | some freq =>
          match lexicalCastInt passno with
          | none => .error .badLexicalCast
          | some passno =>
              .ok
                { fsname := unescape fsname, dir := unescape dir, type := unescape type
                  opts := unescape opts, freq := freq, passno := passno }
  | _ => .error (.invalidRepresentation "Wrong fields number" line)

def assignNonEmpty (name : String) (field : Text) : Except MountEntryError Text :=
  if field = [] then .error (.uninitializedField name) else .ok (escape field)

def string (entry : MountEntry) : Except MountEntryError Text := do
  let fsname ← assignNonEmpty "fsname" entry.fsname
  let dir ← assignNonEmpty "dir" entry.dir
  let type ← assignNonEmpty "type" entry.type
  let opts ← assignNonEmpty "opts" entry.opts
  .ok ([space].intercalate
    [fsname, dir, type, opts, integer entry.freq.toInt, integer entry.passno.toInt])

theorem escape_cons (byte : Byte) (field : Text) :
    escape (byte :: field) = escapeByte byte ++ escape field := rfl

theorem escape_byte_escaped {byte : Byte} (escaped : isEscaped byte = true) :
    escapeByte byte = backslash :: octal byte := if_pos escaped

theorem escape_byte_plain {byte : Byte} (plain : isEscaped byte = false) :
    escapeByte byte = [byte] := if_neg (by simp [plain])

theorem is_escaped_cases {byte : Byte} (escaped : isEscaped byte = true) :
    byte = space ∨ byte = tab ∨ byte = newline ∨ byte = backslash := by
  simpa [isEscaped] using escaped

theorem unescape_from_escape_byte (code byte : Byte) (rest : Text) :
    ∃ after, unescapeFrom 0 code (escapeByte byte ++ rest) =
      byte :: unescapeFrom 0 after rest := by
  cases escaped : isEscaped byte with
  | false =>
      refine ⟨code, ?_⟩
      have different : byte ≠ backslash := by
        rintro rfl
        exact absurd escaped (by decide)
      simp [escape_byte_plain escaped, unescapeFrom, different]
  | true =>
      refine ⟨byte, ?_⟩
      rw [escape_byte_escaped escaped]
      rcases is_escaped_cases escaped with rfl | rfl | rfl | rfl <;> rfl

theorem unescape_escape (field : Text) : unescape (escape field) = field := by
  have general : ∀ code, unescapeFrom 0 code (escape field) = field := by
    induction field with
    | nil => intro code; rfl
    | cons byte field ih =>
        intro code
        obtain ⟨after, decoded⟩ := unescape_from_escape_byte code byte (escape field)
        rw [escape_cons, decoded, ih after]
  exact general 0

theorem not_blank_of_escape {field : Text} {byte : Byte} (member : byte ∈ escape field) :
    isBlank byte = false := by
  obtain ⟨original, _, inside⟩ := List.mem_flatMap.mp member
  cases escaped : isEscaped original with
  | false =>
      rw [escape_byte_plain escaped, List.mem_singleton] at inside
      subst inside
      simp only [isEscaped, List.mem_cons, List.not_mem_nil, or_false, decide_eq_false_iff_not,
        not_or] at escaped
      simp [isBlank, escaped]
  | true =>
      rw [escape_byte_escaped escaped] at inside
      have visible : ∀ plain ∈ [space, tab, newline, backslash],
          ∀ digit ∈ backslash :: octal plain, isBlank digit = false := by decide +kernel
      exact visible original (of_decide_eq_true escaped) byte inside

theorem escape_ne_nil {field : Text} (nonempty : field ≠ []) : escape field ≠ [] := by
  obtain ⟨byte, rest, rfl⟩ := List.exists_cons_of_ne_nil nonempty
  rw [escape_cons, escapeByte]
  split <;> simp

/-- The white space that `trim` drops and `escape` keeps. -/
def isUnescapedSpace (byte : Byte) : Bool :=
  byte ∈ [verticalTab, formFeed, carriageReturn]

/-- The text fields are not empty. -/
structure Filled (entry : MountEntry) : Prop where
  fsname : entry.fsname ≠ []
  dir : entry.dir ≠ []
  type : entry.type ≠ []
  opts : entry.opts ≠ []

def laterFields (entry : MountEntry) : List Text :=
  [escape entry.dir, escape entry.type, escape entry.opts, integer entry.freq.toInt,
    integer entry.passno.toInt]

def line (entry : MountEntry) : Text :=
  [space].intercalate (escape entry.fsname :: laterFields entry)

variable {entry : MountEntry}

theorem string_eq_line (filled : Filled entry) : entry.string = .ok entry.line := by
  simp only [string, assignNonEmpty, filled.fsname, filled.dir, filled.type, filled.opts,
    if_false]
  rfl

theorem not_blank_of_integer {number : Int} {byte : Byte} (member : byte ∈ integer number) :
    isBlank byte = false := by
  rcases integer_bytes member with isDigit | rfl
  · cases blank : isBlank byte with
    | false => rfl
    | true =>
        simp only [isBlank, List.mem_cons, List.not_mem_nil, or_false, decide_eq_true_eq] at blank
        rcases blank with rfl | rfl <;> exact absurd isDigit (by decide)
  · decide

theorem integer_ne_nil (number : Int) : integer number ≠ [] := by
  obtain ⟨before, last, split, _⟩ := integer_ends_with_digit number
  simp [split]

theorem later_fields_plain (filled : Filled entry) :
    ∀ field ∈ laterFields entry, field ≠ [] ∧ ∀ byte ∈ field, isBlank byte = false := by
  intro field member
  simp only [laterFields, List.mem_cons, List.not_mem_nil, or_false] at member
  rcases member with rfl | rfl | rfl | rfl | rfl
  · exact ⟨escape_ne_nil filled.dir, fun _ => not_blank_of_escape⟩
  · exact ⟨escape_ne_nil filled.type, fun _ => not_blank_of_escape⟩
  · exact ⟨escape_ne_nil filled.opts, fun _ => not_blank_of_escape⟩
  · exact ⟨integer_ne_nil _, fun _ => not_blank_of_integer⟩
  · exact ⟨integer_ne_nil _, fun _ => not_blank_of_integer⟩

theorem split_line (filled : Filled entry) :
    splitRuns isBlank entry.line = escape entry.fsname :: laterFields entry := by
  apply split_runs_intercalate (by decide) (by simp)
  intro field member
  rcases List.mem_cons.mp member with rfl | later
  · exact ⟨escape_ne_nil filled.fsname, fun _ => not_blank_of_escape⟩
  · exact later_fields_plain filled field later

theorem construct_of_trimmed (filled : Filled entry) {line_ : Text}
    (trimmed : trim isSpace line_ = entry.line) : construct line_ = .ok entry := by
  simp only [construct, trimmed, split_line filled, laterFields, lexical_cast_int_integer,
    unescape_escape]

theorem line_eq (entry : MountEntry) :
    entry.line = escape entry.fsname ++ space :: [space].intercalate (laterFields entry) := by
  rw [line, laterFields, List.intercalate_cons_cons, List.append_assoc]
  rfl

theorem line_ends (entry : MountEntry) :
    ∃ before last, entry.line = before ++ [last] ∧ isSpace last = false := by
  obtain ⟨before, last, split, isDigit⟩ := integer_ends_with_digit entry.passno.toInt
  refine ⟨[space].intercalate [escape entry.fsname, escape entry.dir, escape entry.type,
    escape entry.opts, integer entry.freq.toInt, before], last, ?_, ?_⟩
  · simp [line, laterFields, split, List.intercalate_cons_cons, List.intercalate_singleton]
  · cases blank : isSpace last with
    | false => rfl
    | true =>
        simp only [isSpace, List.mem_cons, List.not_mem_nil, or_false, decide_eq_true_eq] at blank
        rcases blank with rfl | rfl | rfl | rfl | rfl | rfl <;> exact absurd isDigit (by decide)

theorem is_space_of_plain {byte : Byte} (plain : isEscaped byte = false) :
    isSpace byte = isUnescapedSpace byte := by
  simp only [isEscaped, List.mem_cons, List.not_mem_nil, or_false, decide_eq_false_iff_not,
    not_or] at plain
  simp [isSpace, isUnescapedSpace, plain]

theorem not_unescaped_of_escaped {byte : Byte} (escaped : isEscaped byte = true) :
    isUnescapedSpace byte = false := by
  rcases is_escaped_cases escaped with rfl | rfl | rfl | rfl <;> decide

/-- What trimming drops from an escaped field is the unescaped white space at its start. -/
theorem drop_spaces_escape (field : Text) :
    (escape field).dropWhile isSpace = escape (field.dropWhile isUnescapedSpace) := by
  induction field with
  | nil => rfl
  | cons byte field ih =>
      cases escaped : isEscaped byte with
      | false =>
          rw [escape_cons, escape_byte_plain escaped, List.singleton_append, List.dropWhile_cons,
            List.dropWhile_cons, is_space_of_plain escaped]
          split
          · exact ih
          · rw [escape_cons, escape_byte_plain escaped, List.singleton_append]
      | true =>
          have kept : isSpace backslash = false := by decide
          rw [List.dropWhile_cons, if_neg (by simp [not_unescaped_of_escaped escaped]),
            escape_cons, escape_byte_escaped escaped, List.cons_append, List.dropWhile_cons,
            if_neg (by simp [kept])]

theorem trim_line (entry : MountEntry) :
    trim isSpace entry.line = entry.line.dropWhile isSpace := by
  obtain ⟨before, last, split, filled⟩ := line_ends entry
  rw [split, trim_append filled]

/-- Reading the line of an entry back loses the unescaped white space it starts with. -/
theorem construct_line (filled : Filled entry)
    (core : entry.fsname.dropWhile isUnescapedSpace ≠ []) :
    construct entry.line =
      .ok { entry with fsname := entry.fsname.dropWhile isUnescapedSpace } := by
  apply construct_of_trimmed
  · exact { fsname := core, dir := filled.dir, type := filled.type, opts := filled.opts }
  · rw [trim_line, line_eq, List.dropWhile_append, drop_spaces_escape, if_neg, line_eq]
    · rfl
    · simpa [List.isEmpty_iff] using escape_ne_nil core

theorem construct_line_blank (filled : Filled entry)
    (core : entry.fsname.dropWhile isUnescapedSpace = []) :
    ∃ line, construct entry.line = .error (.invalidRepresentation "Wrong fields number" line) := by
  have trimmed : trim isSpace entry.line =
      ([space].intercalate (laterFields entry)).dropWhile isSpace := by
    have first : isSpace space = true := by decide
    have nothing : escape [] = [] := rfl
    rw [trim_line, line_eq, List.dropWhile_append, drop_spaces_escape, core, nothing,
      List.isEmpty_nil, if_pos rfl, List.dropWhile_cons, if_pos first]
  have few : (splitRuns isBlank (trim isSpace entry.line)).length ≤ 5 := by
    have cuts := length_split_runs_le isBlank (trim isSpace entry.line)
    have fewer : (trim isSpace entry.line).countP isBlank ≤ 4 := by
      rw [trimmed]
      apply ((List.dropWhile_sublist _).countP_le).trans
      rw [count_intercalate (by decide) fun field member =>
        (later_fields_plain filled field member).2]
      rfl
    omega
  refine ⟨trim isSpace entry.line, ?_⟩
  simp only [construct]
  split
  next split =>
      rw [split] at few
      simp at few
  next => rfl

/-- An entry survives printing and reading exactly when its first field does
not start with a white space that printing leaves as it is. -/
theorem line_round_trip_iff (entry : MountEntry) (filled : Filled entry) :
    entry.string.bind construct = .ok entry ↔
      ∀ byte rest, entry.fsname = byte :: rest → isUnescapedSpace byte = false := by
  rw [string_eq_line filled, Except.bind]
  constructor
  · intro returned byte rest starts
    by_cases core : entry.fsname.dropWhile isUnescapedSpace = []
    · obtain ⟨line, refused⟩ := construct_line_blank filled core
      rw [refused] at returned
      cases returned
    · rw [construct_line filled core] at returned
      have same : entry.fsname.dropWhile isUnescapedSpace = entry.fsname :=
        congrArg MountEntry.fsname (Except.ok.inj returned)
      rw [List.dropWhile_eq_self_iff] at same
      simpa [starts] using same
  · intro plain
    have same : entry.fsname.dropWhile isUnescapedSpace = entry.fsname := by
      obtain ⟨byte, rest, starts⟩ := List.exists_cons_of_ne_nil filled.fsname
      rw [starts, List.dropWhile_cons, if_neg (by simp [plain byte rest starts])]
    rw [construct_line filled (by rw [same]; exact filled.fsname), same]

def carriageEntry : MountEntry :=
  { fsname := carriageReturn :: ascii "swap", dir := ascii "none", type := ascii "swap"
    opts := ascii "sw", freq := 0, passno := 0 }

/-- The entry prints without an error and comes back with another first field. -/
theorem leading_carriage_return_lost :
    Filled carriageEntry ∧
      carriageEntry.string.bind construct = .ok { carriageEntry with fsname := ascii "swap" } ∧
      carriageEntry.string.bind construct ≠ .ok carriageEntry := by
  have lost : carriageEntry.string.bind construct =
      .ok { carriageEntry with fsname := ascii "swap" } := rfl
  refine ⟨⟨by decide, by decide, by decide, by decide⟩, lost, ?_⟩
  rw [lost]
  exact fun same => absurd (congrArg MountEntry.fsname (Except.ok.inj same)) (by decide)

/-- Spaces, tabs, newlines and backslashes come back from anywhere, the other
white space from behind the first byte. -/
def spacedEntry : MountEntry :=
  { fsname := [space, backslash, carriageReturn], dir := [formFeed, newline, zero]
    type := [tab], opts := [200, 255], freq := -7, passno := 2147483647 }

theorem line_round_trip_iff_spaced :
    spacedEntry.string.bind construct = .ok spacedEntry ∧
      (spacedEntry.string.bind construct = .ok spacedEntry ↔
        ∀ byte rest, spacedEntry.fsname = byte :: rest → isUnescapedSpace byte = false) :=
  ⟨rfl, line_round_trip_iff spacedEntry ⟨by decide, by decide, by decide, by decide⟩⟩

end MountEntry

end ContestSystem.Unistd
