import Mathlib.Data.List.DropRight
import Mathlib.Tactic.Common

/-!
# Cutting a text into fields

A text is a list over any alphabet. `splitRuns` cuts it at maximal runs of
separators, `trim` drops blanks at both ends, `lines` reads it line by line and
`find` looks for a symbol from an offset on. Each comes with the law for texts
that were joined from their fields.
-/

namespace ContestSystem.Lib.Text

set_option autoImplicit false

variable {Symbol : Type*}

/-- The fields of a text that stands after a separator, or does not. A run of
separators at an end of the text delimits an empty field there. -/
def splitRunsFrom (separates : Symbol → Bool) : Bool → List Symbol → List (List Symbol)
  | _, [] => [[]]
  | afterSeparator, symbol :: rest =>
      if separates symbol then
        if afterSeparator then splitRunsFrom separates true rest
        else [] :: splitRunsFrom separates true rest
      else (splitRunsFrom separates false rest).modifyHead (symbol :: ·)

def splitRuns (separates : Symbol → Bool) (text : List Symbol) : List (List Symbol) :=
  splitRunsFrom separates false text

theorem split_runs_from_field {separates : Symbol → Bool} {field : List Symbol}
    (plain : ∀ symbol ∈ field, separates symbol = false) :
    splitRunsFrom separates false field = [field] := by
  induction field with
  | nil => rfl
  | cons symbol field ih =>
      rw [splitRunsFrom, if_neg (by simp [plain symbol (by simp)]),
        ih fun other member => plain other (by simp [member])]
      rfl

theorem split_runs_from_append {separates : Symbol → Bool} {field rest : List Symbol}
    {separator : Symbol} (plain : ∀ symbol ∈ field, separates symbol = false)
    (cuts : separates separator = true) :
    splitRunsFrom separates false (field ++ separator :: rest) =
      field :: splitRunsFrom separates true rest := by
  induction field with
  | nil => simp [splitRunsFrom, cuts]
  | cons symbol field ih =>
      rw [List.cons_append, splitRunsFrom, if_neg (by simp [plain symbol (by simp)]),
        ih fun other member => plain other (by simp [member])]
      rfl

/-- A field at the start of a text is not delimited by what stands before it. -/
theorem split_runs_from_plain {separates : Symbol → Bool} {symbol : Symbol}
    {rest : List Symbol} (plain : separates symbol = false) (afterSeparator : Bool) :
    splitRunsFrom separates afterSeparator (symbol :: rest) =
      splitRuns separates (symbol :: rest) := by
  simp [splitRuns, splitRunsFrom, plain]

theorem split_runs_intercalate {separates : Symbol → Bool} {separator : Symbol}
    (cuts : separates separator = true) {fields : List (List Symbol)} (nonempty : fields ≠ [])
    (plain : ∀ field ∈ fields, field ≠ [] ∧ ∀ symbol ∈ field, separates symbol = false) :
    splitRuns separates ([separator].intercalate fields) = fields := by
  induction fields with
  | nil => exact absurd rfl nonempty
  | cons first fields ih =>
      have firstPlain := (plain first (by simp)).2
      cases fields with
      | nil =>
          rw [List.intercalate_singleton]
          exact split_runs_from_field firstPlain
      | cons second fields =>
          have rest := ih (by simp) fun field member => plain field (by simp [member])
          rw [List.intercalate_cons_cons, splitRuns, List.append_assoc, List.singleton_append,
            split_runs_from_append firstPlain cuts]
          obtain ⟨secondFilled, secondPlain⟩ := plain second (by simp)
          obtain ⟨symbol, others, split⟩ := List.exists_cons_of_ne_nil secondFilled
          have starts : ∃ tail, [separator].intercalate (second :: fields) = symbol :: tail := by
            cases fields with
            | nil => exact ⟨others, by rw [List.intercalate_singleton, split]⟩
            | cons third fields =>
                rw [List.intercalate_cons_cons, split]
                exact ⟨_, rfl⟩
          obtain ⟨tail, starts⟩ := starts
          rw [starts] at rest ⊢
          rw [split_runs_from_plain (secondPlain symbol (by simp [split])), rest]

theorem length_split_runs_from_le (separates : Symbol → Bool) (afterSeparator : Bool)
    (text : List Symbol) :
    (splitRunsFrom separates afterSeparator text).length ≤ text.countP separates + 1 := by
  induction text generalizing afterSeparator with
  | nil => simp [splitRunsFrom]
  | cons symbol rest ih =>
      cases cuts : separates symbol with
      | false =>
          have bounded := ih false
          simp [splitRunsFrom, cuts]
          omega
      | true =>
          have bounded := ih true
          cases afterSeparator with
          | true =>
              simp [splitRunsFrom, cuts]
              omega
          | false =>
              simp [splitRunsFrom, cuts]
              omega

theorem length_split_runs_le (separates : Symbol → Bool) (text : List Symbol) :
    (splitRuns separates text).length ≤ text.countP separates + 1 :=
  length_split_runs_from_le separates false text

theorem count_intercalate {separates : Symbol → Bool} {separator : Symbol}
    (cuts : separates separator = true) {fields : List (List Symbol)}
    (plain : ∀ field ∈ fields, ∀ symbol ∈ field, separates symbol = false) :
    ([separator].intercalate fields).countP separates = fields.length - 1 := by
  induction fields with
  | nil => rfl
  | cons first fields ih =>
      have firstNone : first.countP separates = 0 := by
        rw [List.countP_eq_zero]
        intro symbol member
        simp [plain first (by simp) symbol member]
      cases fields with
      | nil => rw [List.intercalate_singleton, firstNone]; rfl
      | cons second fields =>
          have rest := ih fun field member => plain field (by simp [member])
          rw [List.intercalate_cons_cons, List.countP_append, List.countP_append, firstNone, rest]
          simp [cuts]
          omega

def trim (blank : Symbol → Bool) (text : List Symbol) : List Symbol :=
  (text.dropWhile blank).rdropWhile blank

theorem trim_append {blank : Symbol → Bool} {text : List Symbol} {last : Symbol}
    (filled : blank last = false) :
    trim blank (text ++ [last]) = (text ++ [last]).dropWhile blank := by
  have inside : ∃ rest, (text ++ [last]).dropWhile blank = rest ++ [last] := by
    induction text with
    | nil => exact ⟨[], by simp [filled]⟩
    | cons symbol text ih =>
        cases isBlank : blank symbol with
        | true => simpa [isBlank] using ih
        | false => exact ⟨symbol :: text, by simp [isBlank]⟩
  obtain ⟨rest, ends⟩ := inside
  rw [trim, ends, List.rdropWhile_concat_neg _ _ _ (by simp [filled])]

theorem drop_past (before after : List Symbol) (symbol : Symbol) :
    (before ++ symbol :: after).drop (before.length + 1) = after := by
  induction before with
  | nil => rfl
  | cons other before ih => exact ih

variable [DecidableEq Symbol]

theorem split_on_plain (separator : Symbol) (text : List Symbol) :
    ∀ piece ∈ text.splitOn separator, separator ∉ piece := by
  induction text with
  | nil => simp
  | cons symbol text ih =>
      rw [List.splitOn_cons_eq_if_modifyHead]
      by_cases cuts : (symbol == separator) = true
      · simpa [cuts] using ih
      · obtain ⟨first, rest, pieces⟩ := List.exists_cons_of_ne_nil
          (List.splitOn_ne_nil separator text)
        rw [pieces] at ih ⊢
        have different : separator ≠ symbol := fun same => cuts (by simp [same])
        simp only [cuts, Bool.false_eq_true, if_false, List.modifyHead_cons, List.mem_cons,
          forall_eq_or_imp, not_or] at ih ⊢
        exact ⟨⟨different, ih.1⟩, ih.2⟩

/-- The lines that `std::getline` reads one after another. A text that ends
with the delimiter has no line after it. -/
def lines (newline : Symbol) (text : List Symbol) : List (List Symbol) :=
  let pieces := text.splitOn newline
  if pieces.getLast? = some [] then pieces.dropLast else pieces

theorem lines_ended {newline : Symbol} {texts : List (List Symbol)}
    (plain : ∀ text ∈ texts, newline ∉ text) :
    lines newline ([newline].intercalate (texts ++ [[]])) = texts := by
  have pieces : ([newline].intercalate (texts ++ [[]])).splitOn newline = texts ++ [[]] := by
    apply List.splitOn_intercalate
    · intro text member
      rcases List.mem_append.mp member with inside | last
      · exact plain text inside
      · simp [List.mem_singleton.mp last]
    · simp
  simp [lines, pieces]

theorem lines_open {newline : Symbol} {texts : List (List Symbol)} {last : List Symbol}
    (plain : ∀ text ∈ texts ++ [last], newline ∉ text) (filled : last ≠ []) :
    lines newline ([newline].intercalate (texts ++ [last])) = texts ++ [last] := by
  have pieces := List.splitOn_intercalate newline plain (by simp)
  simp [lines, pieces, filled]

/-- `std::string::find` of a character from the offset `start` on. -/
def find (symbol : Symbol) (start : Nat) (text : List Symbol) : Option Nat :=
  ((text.drop start).idxOf? symbol).map (start + ·)

theorem find_append {symbol : Symbol} (before middle after : List Symbol)
    (absent : symbol ∉ middle) :
    find symbol before.length (before ++ middle ++ symbol :: after) =
      some (before.length + middle.length) := by
  have located : (middle ++ symbol :: after).idxOf? symbol = some middle.length := by
    induction middle with
    | nil => simp [List.idxOf?_cons]
    | cons other middle ih =>
        rw [List.mem_cons, not_or] at absent
        simp [List.idxOf?_cons, ih absent.2, Ne.symm absent.1]
  simp [find, located]

theorem find_none {symbol : Symbol} {start : Nat} {text : List Symbol} :
    find symbol start text = none ↔ symbol ∉ text.drop start := by
  simp [find]

theorem find_some {symbol : Symbol} {start position : Nat} {text : List Symbol}
    (found : find symbol start text = some position) :
    ∃ middle after, text.drop start = middle ++ symbol :: after ∧ symbol ∉ middle ∧
      position = start + middle.length := by
  obtain ⟨offset, located, rfl⟩ := Option.map_eq_some_iff.mp found
  generalize text.drop start = rest at located
  clear found
  induction rest generalizing offset with
  | nil => simp at located
  | cons other rest ih =>
      rw [List.idxOf?_cons] at located
      by_cases same : other = symbol
      · subst same
        simp only [beq_self_eq_true, if_true, Option.some.injEq] at located
        exact ⟨[], rest, rfl, by simp, by simp [← located]⟩
      · simp only [beq_iff_eq, same, if_false, Option.map_eq_some_iff] at located
        obtain ⟨inner, located, rfl⟩ := located
        obtain ⟨middle, after, split, absent, place⟩ := ih inner located
        refine ⟨other :: middle, after, by simp [split], ?_, ?_⟩
        · simp [absent, Ne.symm same]
        · simp only [List.length_cons]
          omega

end ContestSystem.Lib.Text
