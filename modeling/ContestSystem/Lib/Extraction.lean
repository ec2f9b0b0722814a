import ContestSystem.Lib.Decimal
import Mathlib.Data.List.TakeWhile

/-!
# Formatted extraction from a stream

What is left of a stream is a text. An extraction skips white space, takes the bytes
that belong to what is asked for and leaves the others; it fails where there are none
or where they do not fit the type.
-/

namespace ContestSystem.Lib.Extraction

open ContestSystem.Lib.Decimal

set_option autoImplicit false

def isSpace (byte : Byte) : Bool :=
  byte = 32 || (9 ≤ byte.toNat && byte.toNat ≤ 13)

def isDigit (byte : Byte) : Bool := decide (IsDigit byte)

def skipSpace (text : Text) : Text := text.dropWhile isSpace

def extractWord (text : Text) : Option (Text × Text) :=
  let word := (skipSpace text).takeWhile fun byte => !isSpace byte
  if word.isEmpty then none
  else some (word, (skipSpace text).dropWhile fun byte => !isSpace byte)

def splitSign : Text → Text × Text
  | [] => ([], [])
  | byte :: rest => if byte = minus ∨ byte = plus then ([byte], rest) else ([], byte :: rest)

section Numbers

variable {Value : Type} (cast : Text → Option Value)

/-- `in >> number`, where `cast` converts the bytes of the number. -/
def extractNumber (text : Text) : Option (Value × Text) :=
  let (sign, unsigned) := splitSign (skipSpace text)
  (cast (sign ++ unsigned.takeWhile isDigit)).map fun value => (value, unsigned.dropWhile isDigit)

def extractPair (text : Text) : Option ((Text × Value) × Text) := do
  let (word, text) ← extractWord text
  let (value, text) ← extractNumber cast text
  return ((word, value), text)

end Numbers

theorem skip_space_shorter (text : Text) : (skipSpace text).length ≤ text.length :=
  List.length_dropWhile_le _ _

theorem extract_word_shorter {text word rest : Text}
    (extracted : extractWord text = some (word, rest)) : rest.length < text.length := by
  have split := congrArg List.length
    (List.takeWhile_append_dropWhile (p := fun byte => !isSpace byte) (l := skipSpace text))
  rw [List.length_append] at split
  have skipped := skip_space_shorter text
  unfold extractWord at extracted
  by_cases empty : ((skipSpace text).takeWhile fun byte => !isSpace byte).isEmpty
  · rw [if_pos empty] at extracted
    cases extracted
  · rw [if_neg empty] at extracted
    cases extracted
    have taken : 0 < ((skipSpace text).takeWhile fun byte => !isSpace byte).length :=
      List.length_pos_iff.mpr fun none => empty (List.isEmpty_iff.mpr none)
    omega

theorem split_sign_shorter (text : Text) : (splitSign text).2.length ≤ text.length := by
  cases text with
  | nil => exact Nat.le_refl 0
  | cons byte rest =>
      by_cases sign : byte = minus ∨ byte = plus
      · rw [splitSign, if_pos sign]
        exact Nat.le_succ rest.length
      · rw [splitSign, if_neg sign]

theorem extract_number_shorter {Value : Type} {cast : Text → Option Value} {text rest : Text}
    {value : Value} (extracted : extractNumber cast text = some (value, rest)) :
    rest.length ≤ text.length := by
  obtain ⟨_, _, same⟩ := Option.map_eq_some_iff.mp extracted
  cases same
  calc
    _ ≤ (splitSign (skipSpace text)).2.length := List.length_dropWhile_le _ _
    _ ≤ (skipSpace text).length := split_sign_shorter _
    _ ≤ text.length := skip_space_shorter text

theorem extract_pair_shorter {Value : Type} {cast : Text → Option Value} {text rest : Text}
    {pair : Text × Value} (extracted : extractPair cast text = some (pair, rest)) :
    rest.length < text.length := by
  obtain ⟨⟨word, after⟩, first, more⟩ := Option.bind_eq_some_iff.mp extracted
  obtain ⟨⟨value, left⟩, second, done⟩ := Option.bind_eq_some_iff.mp more
  cases done
  exact Nat.lt_of_le_of_lt (extract_number_shorter second) (extract_word_shorter first)

def Stops (kind : Byte → Bool) (text : Text) : Prop :=
  ∀ byte, text.head? = some byte → kind byte = false

section Kinds

variable {kind : Byte → Bool} {before rest : Text}

theorem drop_kind (all : ∀ byte ∈ before, kind byte = true) (stops : Stops kind rest) :
    (before ++ rest).dropWhile kind = rest := by
  rw [List.dropWhile_append_of_pos all]
  cases rest with
  | nil => rfl
  | cons byte rest => rw [List.dropWhile_cons, if_neg (by simp [stops byte rfl])]

theorem take_kind (all : ∀ byte ∈ before, kind byte = true) (stops : Stops kind rest) :
    (before ++ rest).takeWhile kind = before := by
  rw [List.takeWhile_append_of_pos all]
  cases rest with
  | nil => simp
  | cons byte rest => rw [List.takeWhile_cons, if_neg (by simp [stops byte rfl]), List.append_nil]

theorem stops_append {other : Text} (filled : before ≠ [])
    (all : ∀ byte ∈ before, kind byte = false) : Stops kind (before ++ other) := by
  obtain ⟨first, later, rfl⟩ := List.exists_cons_of_ne_nil filled
  intro byte starts
  rw [List.cons_append, List.head?_cons, Option.some.injEq] at starts
  exact all byte (starts ▸ List.mem_cons_self)

end Kinds

/-- A text that cannot go on with what has been extracted. -/
def Delimited (text : Text) : Prop := ∀ byte, text.head? = some byte → isSpace byte = true

theorem digit_not_space {byte : Byte} (digit : isDigit byte = true) : isSpace byte = false := by
  have bounds : IsDigit byte := of_decide_eq_true digit
  have other : byte ≠ 32 := by
    rintro rfl
    exact absurd bounds (by decide)
  have above : ¬byte.toNat ≤ 13 := by
    have low := bounds.1
    omega
  simp [isSpace, other, above]

theorem skip_space_append {blank text : Text} (space : ∀ byte ∈ blank, isSpace byte = true)
    (stops : Stops isSpace text) : skipSpace (blank ++ text) = text :=
  drop_kind space stops

theorem extract_word_append {blank word rest : Text} (space : ∀ byte ∈ blank, isSpace byte = true)
    (filled : word ≠ []) (plain : ∀ byte ∈ word, isSpace byte = false) (ends : Delimited rest) :
    extractWord (blank ++ (word ++ rest)) = some (word, rest) := by
  have inside : ∀ byte ∈ word, (!isSpace byte) = true := by
    intro byte member
    rw [plain byte member]
    rfl
  have stops : Stops (fun byte => !isSpace byte) rest := by
    intro byte starts
    simp [ends byte starts]
  rw [extractWord, skip_space_append space (stops_append filled plain), take_kind inside stops,
    drop_kind inside stops, if_neg (by simp [filled])]

theorem split_sign_digits {digits : Text} (rest : Text) (filled : digits ≠ [])
    (plain : ∀ byte ∈ digits, isDigit byte = true) :
    splitSign (digits ++ rest) = ([], digits ++ rest) := by
  obtain ⟨first, later, rfl⟩ := List.exists_cons_of_ne_nil filled
  have digit : IsDigit first := of_decide_eq_true (plain first List.mem_cons_self)
  rw [List.cons_append, splitSign, if_neg]
  rintro (rfl | rfl)
  · exact not_digit_minus digit
  · exact not_digit_plus digit

theorem extract_number_append {Value : Type} (cast : Text → Option Value)
    {blank digits rest : Text} (space : ∀ byte ∈ blank, isSpace byte = true)
    (filled : digits ≠ []) (plain : ∀ byte ∈ digits, isDigit byte = true)
    (ends : Delimited rest) :
    extractNumber cast (blank ++ (digits ++ rest)) =
      (cast digits).map fun value => (value, rest) := by
  have stops : Stops isDigit rest := by
    intro byte starts
    by_contra digit
    have space := ends byte starts
    rw [digit_not_space (Bool.not_eq_false _ ▸ digit)] at space
    cases space
  have notSpace : ∀ byte ∈ digits, isSpace byte = false :=
    fun byte inside => digit_not_space (plain byte inside)
  simp only [extractNumber, skip_space_append space (stops_append filled notSpace),
    split_sign_digits rest filled plain, take_kind plain stops, drop_kind plain stops,
    List.nil_append]

theorem extract_number_minus {Value : Type} (cast : Text → Option Value)
    {blank digits rest : Text} (space : ∀ byte ∈ blank, isSpace byte = true)
    (plain : ∀ byte ∈ digits, isDigit byte = true) (ends : Delimited rest) :
    extractNumber cast (blank ++ (minus :: (digits ++ rest))) =
      (cast (minus :: digits)).map fun value => (value, rest) := by
  have stops : Stops isDigit rest := by
    intro byte starts
    by_contra digit
    have space := ends byte starts
    rw [digit_not_space (Bool.not_eq_false _ ▸ digit)] at space
    cases space
  have sign : Stops isSpace (minus :: (digits ++ rest)) := by
    intro byte starts
    cases starts
    rfl
  have split : splitSign (minus :: (digits ++ rest)) = ([minus], digits ++ rest) := by
    rw [splitSign, if_pos (.inl rfl)]
  simp only [extractNumber, skip_space_append space sign, split, take_kind plain stops,
    drop_kind plain stops, List.singleton_append]

theorem extract_pair_append {Value : Type} {cast : Text → Option Value} {value : Value}
    {blank word gap digits rest : Text} (space : ∀ byte ∈ blank, isSpace byte = true)
    (wordFilled : word ≠ []) (wordPlain : ∀ byte ∈ word, isSpace byte = false)
    (gapFilled : gap ≠ []) (gapSpace : ∀ byte ∈ gap, isSpace byte = true)
    (digitsFilled : digits ≠ []) (digitsPlain : ∀ byte ∈ digits, isDigit byte = true)
    (read : cast digits = some value) (ends : Delimited rest) :
    extractPair cast (blank ++ (word ++ (gap ++ (digits ++ rest)))) =
      some ((word, value), rest) := by
  have separated : Delimited (gap ++ (digits ++ rest)) := by
    obtain ⟨first, later, rfl⟩ := List.exists_cons_of_ne_nil gapFilled
    intro byte starts
    rw [List.cons_append, List.head?_cons, Option.some.injEq] at starts
    exact gapSpace byte (starts ▸ List.mem_cons_self)
  simp only [extractPair, extract_word_append space wordFilled wordPlain separated,
    extract_number_append cast gapSpace digitsFilled digitsPlain ends, read, Option.bind_eq_bind,
    Option.bind_some, Option.map_some]
  rfl

theorem extract_pair_blank {Value : Type} {cast : Text → Option Value} {blank : Text}
    (space : ∀ byte ∈ blank, isSpace byte = true) : extractPair cast blank = none := by
  have skipped : skipSpace blank = [] := List.dropWhile_eq_nil_iff.mpr space
  have none : extractWord blank = none := by
    rw [extractWord, skipped]
    rfl
  rw [extractPair, none]
  rfl

end ContestSystem.Lib.Extraction
